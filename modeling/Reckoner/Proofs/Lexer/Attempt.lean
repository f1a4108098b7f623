import Reckoner.Proofs.Automaton.Simulation
import Reckoner.Proofs.Lexer.Munch

/-! One attempt of a lexer. The runners do not touch each other, and the early stop does not show,
so each runner ends with the length of the longest prefix that its automaton accepts. The winner
then holds the longest prefix that any pattern accepts, and the first pattern that accepts it. -/

namespace Reckoner

/-- The pattern with its automaton reset. -/
def Pattern.reset {κ : Type} (p : Pattern κ) : Pattern κ :=
  { p with automaton := p.automaton.reset }

namespace Lexer

variable {κ : Type}

/-- `n` is the length of the longest non-empty prefix of `cs` in the language `L`, and zero if
there is none. -/
structure Furthest (L : List Char → Prop) (cs : List Char) (n : Nat) : Prop where
  le : n ≤ cs.length
  mem : 0 < n → L (cs.take n)
  beyond : ∀ m, n < m → m ≤ cs.length → ¬ L (cs.take m)

namespace Furthest

variable {L : List Char → Prop} {c : Char} {cs : List Char}

theorem nil : Furthest L [] 0 :=
  ⟨Nat.le_refl 0, fun h => absurd h (Nat.lt_irrefl 0), fun m hm hle => by simp at hle; omega⟩

theorem congr {L' : List Char → Prop} {n : Nat} (h : Furthest L cs n)
    (hL : ∀ word, L word ↔ L' word) : Furthest L' cs n :=
  ⟨h.le, fun hpos => (hL _).1 (h.mem hpos), fun m hm hle hword => h.beyond m hm hle ((hL _).2 hword)⟩

theorem length_le {n : Nat} {word : List Char} (h : Furthest L cs n) (hbegins : word <+: cs)
    (hword : L word) : word.length ≤ n := by
  rw [List.prefix_iff_eq_take.1 hbegins] at hword
  exact Nat.le_of_not_lt fun hlt => h.beyond word.length hlt hbegins.length_le hword

/-- Prefixes that begin with `c` are those of the rest, each longer by one character. -/
theorem cons {n : Nat} (h : Furthest (fun word => L (c :: word)) cs n) (hn : L (c :: cs.take n)) :
    Furthest L (c :: cs) (n + 1) := by
  refine ⟨Nat.succ_le_succ h.le, fun _ => hn, fun m hm hle => ?_⟩
  obtain ⟨m, rfl⟩ : ∃ k, m = k + 1 := ⟨m - 1, by omega⟩
  exact h.beyond m (by omega) (Nat.le_of_succ_le_succ hle)

theorem zero (h : Furthest (fun word => L (c :: word)) cs 0) (hc : ¬ L [c]) :
    Furthest L (c :: cs) 0 := by
  refine ⟨Nat.zero_le _, fun h0 => absurd h0 (Nat.lt_irrefl 0), fun m hm hle => ?_⟩
  obtain ⟨m, rfl⟩ : ∃ k, m = k + 1 := ⟨m - 1, by omega⟩
  by_cases hm0 : m = 0
  · rw [hm0]
    exact hc
  · exact h.beyond m (by omega) (Nat.le_of_succ_le_succ hle)

theorem of_no_cons (h : ∀ word, ¬ L (c :: word)) : Furthest L (c :: cs) 0 :=
  zero ⟨Nat.zero_le _, fun h0 => absurd h0 (Nat.lt_irrefl 0), fun _ _ _ => h _⟩ (h [])

end Furthest

/-- The runner after `cs`, which follow the first `n` characters of the attempt, without a stop. -/
def Runner.stepAll (n : Nat) (r : Runner κ) : List Char → Runner κ
  | [] => r
  | c :: cs => (r.step c (n + 1)).stepAll (n + 1) cs

namespace Runner

variable {r : Runner κ}

theorem step_of_canMove {c : Char} (h : r.running = true)
    (hmove : r.pattern.automaton.canMove c = true) (n : Nat) :
    r.step c n = ⟨{ r.pattern with automaton := r.pattern.automaton.apply c }, true,
      if (r.pattern.automaton.apply c).accepts then n else r.longest⟩ := by
  simp [step, h, hmove]

theorem step_of_not_canMove {c : Char} (h : r.running = true)
    (hmove : ¬ r.pattern.automaton.canMove c = true) (n : Nat) :
    r.step c n = { r with running := false } := by
  simp [step, h, hmove]

theorem stepAll_of_not_running (h : r.running = false) (n : Nat) (cs : List Char) :
    r.stepAll n cs = r := by
  induction cs generalizing n with
  | nil => rfl
  | cons c cs ih =>
    have hstep : r.step c (n + 1) = r := by simp [step, h]
    rw [stepAll, hstep, ih]

theorem reset_pattern_step (c : Char) (n : Nat) :
    (r.step c n).pattern.reset = r.pattern.reset := by
  unfold step
  split
  · split <;> rfl
  · rfl

theorem reset_pattern_stepAll (n : Nat) (cs : List Char) :
    (r.stepAll n cs).pattern.reset = r.pattern.reset := by
  induction cs generalizing n r with
  | nil => rfl
  | cons c cs ih => rw [stepAll, ih, reset_pattern_step]

/-- A running runner ends with its length before, unless its automaton accepts a prefix of the
characters to come; then the longest of these prefixes counts, from the beginning of the attempt. -/
theorem longest_stepAll (h : r.running = true) (n : Nat) (cs : List Char) :
    ∃ k, Furthest (fun word => (r.pattern.automaton.applyAll word).accepts = true) cs k ∧
      (r.stepAll n cs).longest = if k = 0 then r.longest else n + k := by
  -- `k` counts from the next character on, so the length before counts only if `k` is zero.
  induction cs generalizing n r with
  | nil => exact ⟨0, .nil, rfl⟩
  | cons c cs ih =>
    by_cases hmove : r.pattern.automaton.canMove c = true
    · rw [stepAll, step_of_canMove h hmove]
      obtain ⟨k, hk, hlongest⟩ := ih (r := ⟨_, true, _⟩) rfl (n + 1)
      rw [hlongest]
      by_cases hk0 : k = 0
      · subst hk0
        rw [if_pos rfl]
        by_cases hacc : (r.pattern.automaton.apply c).accepts = true
        · exact ⟨1, hk.cons hacc, if_pos hacc⟩
        · exact ⟨0, hk.zero hacc, if_neg hacc⟩
      · refine ⟨k + 1, hk.cons (hk.mem (Nat.pos_of_ne_zero hk0)), ?_⟩
        rw [if_neg hk0, if_neg (Nat.succ_ne_zero k)]
        omega
    · rw [stepAll, step_of_not_canMove h hmove, stepAll_of_not_running rfl]
      refine ⟨0, .of_no_cons fun word => ?_, rfl⟩
      rw [Automaton.accepts_applyAll_of_not_canMove hmove]
      exact Bool.false_ne_true

end Runner

/-- The early stop of an attempt does not show in the runners. -/
theorem advance_eq (n : Nat) (runners : List (Runner κ)) (cs : List Char) :
    advance n runners cs = runners.map fun r => r.stepAll n cs := by
  induction cs generalizing n runners with
  | nil => simp [advance, Runner.stepAll]
  | cons c cs ih =>
    by_cases h : runners.any Runner.running = true
    · rw [advance, if_pos h, ih, List.map_map]
      rfl
    · rw [advance, if_neg h]
      refine (List.map_id runners).symm.trans (List.map_congr_left fun r hr => ?_)
      have hstopped : r.running = false := by simp_all
      exact (Runner.stepAll_of_not_running hstopped n (c :: cs)).symm

theorem attempt_eq (patterns : List (Pattern κ)) (cs : List Char) :
    attempt patterns cs = patterns.map fun p => (Runner.begin p).stepAll 0 cs := by
  rw [attempt, advance_eq, List.map_map]
  rfl

/-- The runner of a pattern ends with the length of the longest prefix that the pattern accepts. -/
theorem furthest_begin (p : Pattern κ) (cs : List Char) :
    Furthest p.automaton.Accepts cs ((Runner.begin p).stepAll 0 cs).longest := by
  obtain ⟨k, hk, hlongest⟩ := Runner.longest_stepAll (r := Runner.begin p) rfl 0 cs
  have hlength : ((Runner.begin p).stepAll 0 cs).longest = k := by
    rw [hlongest]
    split
    next h0 => exact h0.symm
    next => exact Nat.zero_add k
  rw [hlength]
  exact hk.congr fun word => Automaton.accepts_applyAll_reset

theorem winner_eq_none {runners : List (Runner κ)} (h : winner runners = none) :
    ∀ r ∈ runners, r.longest = 0 := by
  induction runners with
  | nil => simp
  | cons r rs ih =>
    unfold winner at h
    split at h
    · split at h <;> simp at h
    next hrest =>
      split at h
      · simp at h
      next hzero =>
        intro q hq
        rcases List.mem_cons.1 hq with rfl | hq
        · omega
        · exact ih hrest q hq

/-- The match is for the first of the runners with the longest length. -/
def Wins (runners : List (Runner κ)) (m : Match κ) : Prop :=
  ∃ (i : Nat) (r : Runner κ), runners[i]? = some r ∧ m.pattern = r.pattern ∧
    m.length = r.longest ∧ (∀ q ∈ runners, q.longest ≤ m.length) ∧
    ∀ (j : Nat) (q : Runner κ), j < i → runners[j]? = some q → q.longest < m.length

theorem Wins.head {r : Runner κ} {rs : List (Runner κ)} (hpos : 0 < r.longest)
    (hle : ∀ q ∈ rs, q.longest ≤ r.longest) :
    Wins (r :: rs) ⟨r.pattern, r.longest, hpos⟩ := by
  refine ⟨0, r, rfl, rfl, rfl, fun q hq => ?_, fun j _ hj _ => absurd hj (Nat.not_lt_zero j)⟩
  rcases List.mem_cons.1 hq with rfl | hq
  · exact Nat.le_refl _
  · exact hle q hq

theorem Wins.tail {r : Runner κ} {rs : List (Runner κ)} {m : Match κ} (h : Wins rs m)
    (hlt : r.longest < m.length) : Wins (r :: rs) m := by
  obtain ⟨i, r', hi, hpattern, hlength, hle, hfirst⟩ := h
  refine ⟨i + 1, r', hi, hpattern, hlength, fun q hq => ?_, fun j q hj hq => ?_⟩
  · rcases List.mem_cons.1 hq with rfl | hq
    · exact Nat.le_of_lt hlt
    · exact hle q hq
  · cases j with
    | zero =>
      obtain rfl : r = q := Option.some.inj hq
      exact hlt
    | succ j => exact hfirst j q (by omega) hq

theorem winner_wins {runners : List (Runner κ)} {m : Match κ} (h : winner runners = some m) :
    Wins runners m := by
  induction runners generalizing m with
  | nil => simp [winner] at h
  | cons r rs ih =>
    unfold winner at h
    split at h
    next m' hrest =>
      have hwins := ih hrest
      split at h
      next hge =>
        obtain rfl := Option.some.inj h
        obtain ⟨_, _, _, _, _, hle, _⟩ := hwins
        exact .head _ fun q hq => Nat.le_trans (hle q hq) hge
      next hlt =>
        obtain rfl := Option.some.inj h
        exact hwins.tail (Nat.lt_of_not_le hlt)
    next hrest =>
      split at h
      next hpos =>
        obtain rfl := Option.some.inj h
        refine .head hpos fun q hq => ?_
        rw [winner_eq_none hrest q hq]
        exact Nat.zero_le _
      next => simp at h

theorem length_le_of_winner {patterns : List (Pattern κ)} {cs : List Char} {m : Match κ}
    (h : winner (attempt patterns cs) = some m) : m.length ≤ cs.length := by
  obtain ⟨i, r, hr, _, hlength, _⟩ := winner_wins h
  have hmem := List.mem_of_getElem? hr
  rw [attempt_eq] at hmem
  obtain ⟨p, _, rfl⟩ := List.mem_map.1 hmem
  rw [hlength]
  exact (furthest_begin p cs).le

end Lexer

end Reckoner
