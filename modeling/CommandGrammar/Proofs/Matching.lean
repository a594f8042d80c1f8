import CommandGrammar.Pattern
import Mathlib.Data.List.Basic

/-! What a regular expression matches. Whether it matches a word depends on the word and on the
characters before and behind it, by which boundaries are told. Following the partial derivatives of
an expression character by character finds exactly the words that it matches. -/

namespace CommandGrammar

namespace Expr

/-- The word is so many rounds, one behind the other, each of them between its neighbours. -/
inductive Rounds (round : Option Char → List Char → Option Char → Prop) :
    Nat → Option Char → List Char → Option Char → Prop
  | none {before behind : Option Char} : Rounds round 0 before [] behind
  | more {n : Nat} {before behind : Option Char} {u v : List Char}
      (first : round before u (v.head?.or behind))
      (rest : Rounds round n (u.getLast?.or before) v behind) :
      Rounds round (n + 1) before (u ++ v) behind

/-- The expression matches the word, if the character before it and the one behind it are these. -/
def Matches : Expr → Option Char → List Char → Option Char → Prop
  | empty => fun _ w _ => w = []
  | chars cls => fun _ w _ => ∃ c, w = [c] ∧ cls.contains c.toNat = true
  | boundary b => fun before w behind => w = [] ∧ b.holds before behind = true
  | cat a b => fun before w behind => ∃ u v, w = u ++ v ∧ a.Matches before u (v.head?.or behind) ∧
      b.Matches (u.getLast?.or before) v behind
  | alt a b => fun before w behind => a.Matches before w behind ∨ b.Matches before w behind
  | rep a least most => fun before w behind => ∃ n, least ≤ n ∧ (∀ m ∈ most, n ≤ m) ∧
      Rounds a.Matches n before w behind

/-- No repetition has to be done more often than it may. -/
def Bounded : Expr → Prop
  | cat a b => a.Bounded ∧ b.Bounded
  | alt a b => a.Bounded ∧ b.Bounded
  | rep a least most => a.Bounded ∧ ∀ m ∈ most, least ≤ m
  | _ => True

theorem contains_single (c d : Char) : (CharClass.single c).contains d.toNat = (d == c) := by
  rw [CharClass.single, CharClass.contains, Bool.eq_iff_iff, Bool.and_eq_true, decide_eq_true_eq,
    decide_eq_true_eq, beq_iff_eq, ← Char.toNat_inj]
  omega

theorem matches_single {c : Char} {before behind : Option Char} {w : List Char} :
    (chars (.single c)).Matches before w behind ↔ w = [c] := by
  constructor
  · rintro ⟨d, rfl, hd⟩
    rw [contains_single, beq_iff_eq] at hd
    rw [hd]
  · rintro rfl
    exact ⟨c, rfl, by rw [contains_single, beq_self_eq_true]⟩

theorem getLast?_cons_or (c : Char) (u : List Char) (before : Option Char) :
    (c :: u).getLast?.or before = u.getLast?.or (some c) := by
  rw [List.getLast?_cons]
  cases u.getLast? <;> rfl

/-! ### Rounds -/

section

variable {round : Option Char → List Char → Option Char → Prop} {n : Nat}
  {before behind : Option Char}

theorem rounds_nil_iff : Rounds round n before [] behind ↔ n = 0 ∨ round before [] behind := by
  constructor
  · generalize hw : [] = w
    rintro (_ | ⟨first, -⟩)
    · exact .inl rfl
    · obtain ⟨rfl, rfl⟩ := List.append_eq_nil_iff.mp hw.symm
      exact .inr first
  · rintro (rfl | h)
    · exact .none
    · induction n with
      | zero => exact .none
      | succ n ih => exact .more (u := []) (v := []) h ih

/-- The first round that is not empty takes the first character, and the rounds before it are all
alike. -/
theorem rounds_cons_iff {c : Char} {w : List Char} :
    Rounds round n before (c :: w) behind ↔ ∃ k m u v, n = k + (m + 1) ∧
      (k = 0 ∨ round before [] (some c)) ∧ w = u ++ v ∧
      round before (c :: u) (v.head?.or behind) ∧
      Rounds round m (u.getLast?.or (some c)) v behind := by
  constructor
  · generalize hw : c :: w = word
    intro h
    induction h with
    | none => cases hw
    | @more n before behind u v first rest ih =>
      rcases List.cons_eq_append_iff.mp hw with ⟨rfl, rfl⟩ | ⟨u, rfl, rfl⟩
      · obtain ⟨k, m, u, v, rfl, -, hw, hround, hrest⟩ := ih rfl
        exact ⟨k + 1, m, u, v, Nat.add_right_comm _ _ _, .inr first, hw, hround, hrest⟩
      · rw [getLast?_cons_or] at rest
        exact ⟨0, n, u, v, (Nat.zero_add _).symm, .inl rfl, rfl, first, rest⟩
  · rintro ⟨k, m, u, v, rfl, hk, rfl, hround, hrest⟩
    have hone : Rounds round (m + 1) before (c :: (u ++ v)) behind :=
      .more (u := c :: u) hround (by rw [getLast?_cons_or]; exact hrest)
    rcases hk with rfl | hempty
    · rwa [Nat.zero_add]
    · induction k with
      | zero => rwa [Nat.zero_add]
      | succ k ih =>
        rw [Nat.add_right_comm]
        exact .more (u := []) hempty ih

end

/-! ### Derivatives -/

theorem matches_andThen {a b : Expr} {before behind : Option Char} {w : List Char} :
    (andThen a b).Matches before w behind ↔ (cat a b).Matches before w behind := by
  cases a with
  | empty =>
    constructor
    · intro h
      exact ⟨[], w, rfl, rfl, h⟩
    · rintro ⟨u, v, rfl, rfl, h⟩
      exact h
  | _ => rfl

theorem bounded_andThen {a b : Expr} (ha : a.Bounded) (hb : b.Bounded) : (andThen a b).Bounded := by
  cases a with
  | empty => exact hb
  | _ => exact ⟨ha, hb⟩

theorem nullable_iff {e : Expr} (h : e.Bounded) {before behind : Option Char} :
    e.nullable before behind = true ↔ e.Matches before [] behind := by
  induction e with
  | empty => exact iff_of_true rfl rfl
  | chars cls => simp [nullable, Matches]
  | boundary b => simp [nullable, Matches]
  | cat a b iha ihb =>
    rw [nullable, Bool.and_eq_true, iha h.1, ihb h.2]
    constructor
    · rintro ⟨ha, hb⟩
      exact ⟨[], [], rfl, ha, hb⟩
    · rintro ⟨u, v, huv, ha, hb⟩
      obtain ⟨rfl, rfl⟩ := List.append_eq_nil_iff.mp huv.symm
      exact ⟨ha, hb⟩
  | alt a b iha ihb => rw [nullable, Bool.or_eq_true, iha h.1, ihb h.2]; rfl
  | rep a least most ih =>
    rw [nullable, Bool.or_eq_true, beq_iff_eq, ih h.1]
    constructor
    · rintro (rfl | ha)
      · exact ⟨0, Nat.le_refl 0, fun _ _ => Nat.zero_le _, .none⟩
      · exact ⟨least, Nat.le_refl _, h.2, rounds_nil_iff.mpr (.inr ha)⟩
    · rintro ⟨n, hleast, -, hrounds⟩
      rcases rounds_nil_iff.mp hrounds with rfl | ha
      · exact .inl (Nat.le_zero.mp hleast)
      · exact .inr ha

theorem Bounded.derivatives {e : Expr} (h : e.Bounded) {before : Option Char} {c : Char} :
    ∀ d ∈ e.derivatives before c, d.Bounded := by
  induction e with
  | empty => exact nofun
  | chars cls =>
    rw [Expr.derivatives]
    split
    · exact List.forall_mem_singleton.mpr trivial
    · exact nofun
  | boundary b => exact nofun
  | cat a b iha ihb =>
    rw [Expr.derivatives, List.forall_mem_append, List.forall_mem_map]
    refine ⟨fun d hd => bounded_andThen (iha h.1 d hd) h.2, ?_⟩
    split
    · exact ihb h.2
    · exact nofun
  | alt a b iha ihb =>
    rw [Expr.derivatives, List.forall_mem_append]
    exact ⟨iha h.1, ihb h.2⟩
  | rep a least most ih =>
    rw [Expr.derivatives]
    split
    · exact nofun
    · rw [List.forall_mem_map]
      refine fun d hd => bounded_andThen (ih h.1 d hd) ⟨h.1, fun m hm => ?_⟩
      obtain ⟨k, hk, rfl⟩ := Option.map_eq_some_iff.mp hm
      have := h.2 k hk
      split <;> omega

/-- The derivatives match what the expression matches behind the character. -/
def Derived (e : Expr) (before : Option Char) (c : Char) : Prop :=
  ∀ w behind, (∃ d ∈ e.derivatives before c, d.Matches (some c) w behind) ↔
    e.Matches before (c :: w) behind

section

variable {a b : Expr} {before : Option Char} {c : Char}

theorem Derived.cat (h : a.Bounded) (ha : a.Derived before c) (hb : b.Derived before c) :
    (cat a b).Derived before c := by
  intro w behind
  simp only [derivatives, List.mem_append, List.mem_map, or_and_right, exists_or,
    exists_exists_and_eq_and, matches_andThen]
  constructor
  · rintro (⟨d, hd, u, v, rfl, hu, hv⟩ | ⟨d, hd, hw⟩)
    · refine ⟨c :: u, v, rfl, (ha u _).mp ⟨d, hd, hu⟩, ?_⟩
      rw [getLast?_cons_or]
      exact hv
    · split at hd
      · next hempty =>
        exact ⟨[], c :: w, rfl, (nullable_iff h).mp hempty, (hb w behind).mp ⟨d, hd, hw⟩⟩
      · cases hd
  · rintro ⟨u, v, huv, hu, hv⟩
    rcases List.cons_eq_append_iff.mp huv with ⟨rfl, rfl⟩ | ⟨u, rfl, rfl⟩
    · obtain ⟨d, hd, hw⟩ := (hb w behind).mpr hv
      have hempty : a.nullable before (some c) = true := (nullable_iff h).mpr hu
      exact .inr ⟨d, by rwa [if_pos hempty], hw⟩
    · obtain ⟨d, hd, hu⟩ := (ha u _).mpr hu
      rw [getLast?_cons_or] at hv
      exact .inl ⟨d, hd, u, v, rfl, hu, hv⟩

theorem Derived.rep {least : Nat} {most : Option Nat} (h : a.Bounded)
    (hbounds : ∀ m ∈ most, least ≤ m) (ha : a.Derived before c) :
    (rep a least most).Derived before c := by
  intro w behind
  by_cases hmost : most = some 0
  · subst hmost
    refine iff_of_false nofun ?_
    rintro ⟨n, -, hn, hrounds⟩
    obtain rfl := Nat.le_zero.mp (hn 0 rfl)
    obtain ⟨k, m, -, -, hkm, -⟩ := rounds_cons_iff.mp hrounds
    omega
  rw [derivatives, if_neg (by simpa using hmost)]
  simp only [List.mem_map, exists_exists_and_eq_and, matches_andThen]
  constructor
  · rintro ⟨d, hd, u, v, rfl, hu, m, hleft, hm, hrest⟩
    have hround := (ha u _).mp ⟨d, hd, hu⟩
    -- empty rounds in front make up for those that the derivative leaves out
    refine ⟨(least - (m + 1)) + (m + 1), by omega, fun most hk => ?_,
      rounds_cons_iff.mpr ⟨_, m, u, v, rfl, ?_, rfl, hround, hrest⟩⟩
    · have hm := hm (most - 1) (Option.mem_map_of_mem _ hk)
      have hle := hbounds most hk
      have hpos : most ≠ 0 := by
        rintro rfl
        exact hmost hk
      omega
    · split at hleft
      · next hempty => exact .inr ((nullable_iff h).mp hempty)
      · exact .inl (by omega)
  · rintro ⟨n, hleast, hn, hrounds⟩
    obtain ⟨k, m, u, v, rfl, hk, rfl, hround, hrest⟩ := rounds_cons_iff.mp hrounds
    obtain ⟨d, hd, hu⟩ := (ha u _).mpr hround
    refine ⟨d, hd, u, v, rfl, hu, m, ?_, fun _ hm => ?_, hrest⟩
    · split
      · exact Nat.zero_le m
      · next hsolid =>
        rcases hk with rfl | hempty
        · omega
        · exact absurd ((nullable_iff h).mpr hempty) hsolid
    · obtain ⟨most, hmost, rfl⟩ := Option.map_eq_some_iff.mp hm
      have := hn most hmost
      omega

end

theorem Bounded.derived {e : Expr} (h : e.Bounded) (before : Option Char) (c : Char) :
    e.Derived before c := by
  induction e with
  | empty =>
    intro w behind
    simp [Expr.derivatives, Matches]
  | chars cls =>
    intro w behind
    rw [Expr.derivatives]
    split <;> simp_all [Matches]
  | boundary b =>
    intro w behind
    simp [Expr.derivatives, Matches]
  | cat a b iha ihb => exact .cat h.1 (iha h.1) (ihb h.2)
  | alt a b iha ihb =>
    intro w behind
    simp only [Expr.derivatives, List.mem_append, or_and_right, exists_or, iha h.1 w behind,
      ihb h.2 w behind]
    rfl
  | rep a least most ih => exact .rep h.1 h.2 (ih h.1)

/-! ### Searching -/

/-- The expression matches a word at the start of the characters. -/
def MatchesAt (e : Expr) (before : Option Char) (cs : List Char) : Prop :=
  ∃ u v, cs = u ++ v ∧ e.Matches before u v.head?

theorem matchesAt_nil_iff {e : Expr} (h : e.Bounded) {before : Option Char} :
    e.MatchesAt before [] ↔ e.nullable before none = true := by
  rw [nullable_iff h]
  constructor
  · rintro ⟨u, v, huv, hu⟩
    obtain ⟨rfl, rfl⟩ := List.append_eq_nil_iff.mp huv.symm
    exact hu
  · exact fun hnil => ⟨[], [], rfl, hnil⟩

theorem matchesAt_cons_iff {e : Expr} (h : e.Bounded) {before : Option Char} {c : Char}
    {cs : List Char} : e.MatchesAt before (c :: cs) ↔ e.nullable before (some c) = true ∨
      ∃ d ∈ e.derivatives before c, d.MatchesAt (some c) cs := by
  rw [nullable_iff h]
  constructor
  · rintro ⟨u, v, huv, hu⟩
    rcases List.cons_eq_append_iff.mp huv with ⟨rfl, rfl⟩ | ⟨u, rfl, rfl⟩
    · exact .inl hu
    · obtain ⟨d, hd, hu⟩ := (h.derived _ _ _ _).mpr hu
      exact .inr ⟨d, hd, u, v, rfl, hu⟩
  · rintro (hnil | ⟨d, hd, u, v, rfl, hu⟩)
    · exact ⟨[], c :: cs, rfl, hnil⟩
    · exact ⟨c :: u, v, rfl, (h.derived _ _ _ _).mp ⟨d, hd, hu⟩⟩

/-- The expression matches a word somewhere in the characters. -/
def MatchesIn (e : Expr) (before : Option Char) (cs : List Char) : Prop :=
  ∃ front rest, cs = front ++ rest ∧ e.MatchesAt (front.getLast?.or before) rest

theorem matchesIn_nil_iff {e : Expr} {before : Option Char} :
    e.MatchesIn before [] ↔ e.MatchesAt before [] := by
  constructor
  · rintro ⟨front, rest, hnil, hrest⟩
    obtain ⟨rfl, rfl⟩ := List.append_eq_nil_iff.mp hnil.symm
    exact hrest
  · exact fun h => ⟨[], [], rfl, h⟩

theorem matchesIn_cons_iff {e : Expr} {before : Option Char} {c : Char} {cs : List Char} :
    e.MatchesIn before (c :: cs) ↔ e.MatchesAt before (c :: cs) ∨ e.MatchesIn (some c) cs := by
  constructor
  · rintro ⟨front, rest, hcs, hrest⟩
    rcases List.cons_eq_append_iff.mp hcs with ⟨rfl, rfl⟩ | ⟨front, rfl, rfl⟩
    · exact .inl hrest
    · rw [getLast?_cons_or] at hrest
      exact .inr ⟨front, rest, rfl, hrest⟩
  · rintro (h | ⟨front, rest, rfl, hrest⟩)
    · exact ⟨[], c :: cs, rfl, h⟩
    · refine ⟨c :: front, rest, rfl, ?_⟩
      rw [getLast?_cons_or]
      exact hrest

/-- The search goes on with what was begun, and begins the wanted expression at each place. -/
theorem findFrom_iff {wanted : Expr} (hw : wanted.Bounded) {before : Option Char}
    {begun : List Expr} (hb : ∀ e ∈ begun, e.Bounded) {cs : List Char} :
    findFrom wanted before begun cs = true ↔
      (∃ e ∈ begun, e.MatchesAt before cs) ∨ wanted.MatchesIn before cs := by
  induction cs generalizing before begun with
  | nil =>
    have hall : ∀ e ∈ wanted :: begun, e.Bounded := List.forall_mem_cons.mpr ⟨hw, hb⟩
    rw [findFrom, List.any_eq_true, matchesIn_nil_iff]
    have hiff : (∃ e ∈ wanted :: begun, e.nullable before none = true) ↔
        ∃ e ∈ wanted :: begun, e.MatchesAt before [] :=
      exists_congr fun e => and_congr_right fun he => (matchesAt_nil_iff (hall e he)).symm
    rw [hiff, List.exists_mem_cons_iff]
    exact or_comm
  | cons c cs ih =>
    have hall : ∀ e ∈ wanted :: begun, e.Bounded := List.forall_mem_cons.mpr ⟨hw, hb⟩
    have hnext : ∀ d ∈ ((wanted :: begun).flatMap (·.derivatives before c)).eraseDups,
        d.Bounded := by
      intro d hd
      rw [List.mem_eraseDups, List.mem_flatMap] at hd
      obtain ⟨e, he, hd⟩ := hd
      exact (hall e he).derivatives d hd
    have hhere : (∃ e ∈ wanted :: begun, e.MatchesAt before (c :: cs)) ↔
        (∃ e ∈ wanted :: begun, e.nullable before (some c) = true) ∨
          ∃ d ∈ (wanted :: begun).flatMap (·.derivatives before c), d.MatchesAt (some c) cs := by
      simp only [List.mem_flatMap]
      constructor
      · rintro ⟨e, he, hmatch⟩
        rcases (matchesAt_cons_iff (hall e he)).mp hmatch with hnull | ⟨d, hd, hmatch⟩
        · exact .inl ⟨e, he, hnull⟩
        · exact .inr ⟨d, ⟨e, he, hd⟩, hmatch⟩
      · rintro (⟨e, he, hnull⟩ | ⟨d, ⟨e, he, hd⟩, hmatch⟩)
        · exact ⟨e, he, (matchesAt_cons_iff (hall e he)).mpr (.inl hnull)⟩
        · exact ⟨e, he, (matchesAt_cons_iff (hall e he)).mpr (.inr ⟨d, hd, hmatch⟩)⟩
    rw [findFrom, Bool.or_eq_true, ih hnext, List.any_eq_true, matchesIn_cons_iff, ← or_assoc,
      ← or_assoc]
    simp only [List.mem_eraseDups]
    rw [← hhere, List.exists_mem_cons_iff, or_comm (a := wanted.MatchesAt before (c :: cs))]

/-- The expression is found in a text if and only if it matches a word there. -/
theorem occursIn_iff {e : Expr} (h : e.Bounded) (text : String) :
    e.occursIn text = true ↔ ∃ front u v, text.toList = front ++ (u ++ v) ∧
      e.Matches front.getLast? u v.head? := by
  rw [occursIn, findFrom_iff h (List.forall_mem_nil _)]
  simp only [List.not_mem_nil, false_and, exists_false, false_or, MatchesIn, Option.or_none]
  constructor
  · rintro ⟨front, rest, htext, u, v, rfl, hu⟩
    exact ⟨front, u, v, htext, hu⟩
  · rintro ⟨front, u, v, htext, hu⟩
    exact ⟨front, u ++ v, htext, u, v, rfl, hu⟩

/-- The expression between the start and the end of the text. -/
def whole (e : Expr) : Expr := .cat (.boundary .textStart) (.cat e (.boundary .textEnd))

/-- Between start and end an expression is found only if it matches the whole text. -/
theorem occursIn_whole {e : Expr} (h : e.Bounded) (text : String) :
    e.whole.occursIn text = true ↔ e.Matches none text.toList none := by
  have hwhole : e.whole.Bounded := ⟨trivial, h, trivial⟩
  rw [occursIn_iff hwhole]
  constructor
  · rintro ⟨front, u, v, htext, start, rest, rfl, ⟨rfl, hstart⟩, w, stop, rfl, hw, rfl, hstop⟩
    have hfront : front = [] := by simpa [Boundary.holds] using hstart
    have hv : v = [] := by simpa [Boundary.holds] using hstop
    subst hfront hv
    simpa [htext] using hw
  · intro hw
    exact ⟨[], text.toList, [], by simp, [], text.toList, rfl, ⟨rfl, rfl⟩, text.toList, [],
      by simp, by simpa using hw, rfl, rfl⟩

end Expr

end CommandGrammar
