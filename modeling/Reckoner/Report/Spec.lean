/-! What a report shows and how: a stage of the work on a text, and a format. A spec is written
`stage-format`. Eleven pairs of a stage and a format are available. A user may set the spec where none
is given, and some of the form of the reports. -/

namespace Reckoner

/-- How far the work on a text goes. -/
inductive Stage where
  | token
  | ast
  | eval
  deriving DecidableEq

namespace Stage

def name : Stage → String
  | token => "token"
  | ast => "ast"
  | eval => "eval"

def ofName? : String → Option Stage
  | "token" => some token
  | "ast" => some ast
  | "eval" => some eval
  | _ => none

end Stage

/-- The form of a report. The raw formats show blanks as tokens. -/
inductive Format where
  | simple
  | json
  | yaml
  | rawSimple
  | rawJson
  | tag
  | treeviz
  deriving DecidableEq

namespace Format

def name : Format → String
  | simple => "simple"
  | json => "json"
  | yaml => "yaml"
  | rawSimple => "raw-simple"
  | rawJson => "raw-json"
  | tag => "tag"
  | treeviz => "treeviz"

def ofName? : String → Option Format
  | "simple" => some simple
  | "json" => some json
  | "yaml" => some yaml
  | "raw-simple" => some rawSimple
  | "raw-json" => some rawJson
  | "tag" => some tag
  | "treeviz" => some treeviz
  | _ => none

/-- Whether the format shows blanks as tokens. -/
def isRaw : Format → Bool
  | rawSimple | rawJson => true
  | _ => false

end Format

structure Spec where
  stage : Stage
  format : Format
  deriving DecidableEq

/-- Why a text is no available spec. -/
inductive SpecError where
  /-- The text has no hyphen. -/
  | noHyphen (text : String)
  /-- No stage has the name before the first hyphen. -/
  | unknownStage (name : String)
  /-- No format has the name after the first hyphen. -/
  | unknownFormat (name : String)
  /-- The stage has no report in the format. -/
  | incompatible (stage : Stage) (format : Format)
  deriving DecidableEq

def SpecError.message : SpecError → String
  | noHyphen text => "Invalid format: " ++ text
  | unknownStage name => "Invalid stage: " ++ name
  | unknownFormat name => "Invalid format type: " ++ name
  | incompatible stage format =>
    "Format '" ++ format.name ++ "' not supported for " ++ stage.name ++ " stage"

namespace Spec

/-- A spec as it is written. -/
def text (spec : Spec) : String := spec.stage.name ++ "-" ++ spec.format.name

/-- The available specs. -/
def available : List Spec := [
  ⟨.token, .simple⟩, ⟨.token, .json⟩, ⟨.token, .rawSimple⟩, ⟨.token, .rawJson⟩,
  ⟨.ast, .simple⟩, ⟨.ast, .json⟩, ⟨.ast, .yaml⟩, ⟨.ast, .tag⟩, ⟨.ast, .treeviz⟩,
  ⟨.eval, .simple⟩, ⟨.eval, .json⟩]

/-- What stands before the first hyphen and what stands after it. -/
def splitHyphen : List Char → Option (List Char × List Char)
  | [] => none
  | c :: cs =>
    if c = '-' then some ([], cs)
    else (splitHyphen cs).map fun (before, after) => (c :: before, after)

/-- The available spec that a text writes. -/
def ofText (text : String) : Except SpecError Spec :=
  match splitHyphen text.toList with
  | none => .error (.noHyphen text)
  | some (before, after) =>
    match Stage.ofName? (String.ofList before) with
    | none => .error (.unknownStage (String.ofList before))
    | some stage =>
      match Format.ofName? (String.ofList after) with
      | none => .error (.unknownFormat (String.ofList after))
      | some format =>
        let spec : Spec := ⟨stage, format⟩
        if spec ∈ available then .ok spec else .error (.incompatible stage format)

end Spec

/-- What a user may set. -/
structure Settings where
  /-- The spec of a report for which none is given. -/
  format : String
  /-- Whether JSON text is indented. -/
  prettyJson : Bool
  /-- The number of characters to which an outline cuts its labels. -/
  maxLabelChars : Nat
  deriving DecidableEq

/-- The settings where nothing is set. -/
def Settings.standard : Settings := ⟨"eval-simple", true, 30⟩

end Reckoner
