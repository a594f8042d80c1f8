import CommandGrammar.Proofs.Matching
import CommandGrammar.Proofs.Reading.Enclosing

/-! The pattern of an escaped text. It can always be read, and it matches that text and no other. A
node that is to match nothing but its own name has such a pattern. -/

namespace CommandGrammar

/-! ### The expression of a text -/

namespace Expr

/-- The expression of one text. -/
def word : List Char → Expr
  | [] => .empty
  | c :: cs =>
    match word cs with
    | .empty => .chars (.single c)
    | e => .cat (.chars (.single c)) e

/-- The expression of one text between the start and the end of the text that is matched. -/
def wholeWord (cs : List Char) : Expr :=
  .cat (.boundary .textStart) (.cat (word cs) (.boundary .textEnd))

theorem word_ne_empty (c : Char) (cs : List Char) : word (c :: cs) ≠ .empty := by
  rw [word]
  split <;> nofun

theorem word_cons_cons (c d : Char) (cs : List Char) :
    word (c :: d :: cs) = .cat (.chars (.single c)) (word (d :: cs)) := by
  rw [word]
  split
  · next h => exact absurd h (word_ne_empty d cs)
  · rfl

theorem matches_word {cs : List Char} {before behind : Option Char} {w : List Char} :
    (word cs).Matches before w behind ↔ w = cs := by
  induction cs generalizing before w with
  | nil => rfl
  | cons c cs ih =>
    cases cs with
    | nil => exact matches_single
    | cons d cs =>
      rw [word_cons_cons]
      constructor
      · rintro ⟨u, v, rfl, hu, hv⟩
        rw [matches_single.mp hu, ih.mp hv]
        rfl
      · rintro rfl
        exact ⟨[c], d :: cs, rfl, matches_single.mpr rfl, ih.mpr rfl⟩

theorem bounded_word (cs : List Char) : (word cs).Bounded := by
  induction cs with
  | nil => trivial
  | cons c cs ih =>
    cases cs with
    | nil => trivial
    | cons d cs => exact word_cons_cons c d cs ▸ ⟨trivial, ih⟩

/-- The expression of a text matches that text and no other. -/
theorem occursIn_wholeWord (cs : List Char) (text : String) :
    (wholeWord cs).occursIn text = decide (text.toList = cs) := by
  rw [Bool.eq_iff_iff, decide_eq_true_eq, ← matches_word]
  exact occursIn_whole (bounded_word cs) text

end Expr

/-! ### Reading an escaped text -/

namespace PatternReader

/-- The items of a text, the last first. -/
def wordItems (cs : List Char) : List Item :=
  (cs.map fun c => Item.expr (.chars (.single c)) 0).reverse

theorem branchExpr_wordItems (cs : List Char) : branchExpr (wordItems cs) = Expr.word cs := by
  rw [branchExpr, wordItems, List.foldl_reverse]
  induction cs with
  | nil => rfl
  | cons c cs ih =>
    rw [List.map_cons, List.foldr_cons, ih]
    rfl

/-- The reader behind an escaped text. -/
def wordState (cs : List Char) : State := { State.start with items := wordItems cs }

theorem body_wordState (cs : List Char) : (wordState cs).body = Expr.word cs :=
  branchExpr_wordItems cs

/-- An escaped character. -/
def escapeChar (c : Char) : List Char := if isMeta c then ['\\', c] else [c]

section

variable [Text.Properties]

/-- A character without a meaning of its own is an item. -/
theorem step_of_not_isMeta {c : Char} (h : isMeta c = false) (s : State) (cs : List Char) :
    step s c cs = some (s.push (literalExpr s.flags c) 0, cs) := by
  unfold step
  split
  any_goals rfl
  all_goals exact absurd h (by decide)

/-- A character with a meaning of its own is an item behind a backslash. -/
theorem step_backslash {c : Char} (h : isMeta c = true) (s : State) (cs : List Char) :
    step s '\\' (c :: cs) = some (s.push (literalExpr s.flags c) 0, cs) := by
  simp only [isMeta, List.contains_eq_mem, decide_eq_true_eq, List.mem_cons, List.not_mem_nil,
    or_false] at h
  rcases h with rfl | rfl | rfl | rfl | rfl | rfl | rfl | rfl | rfl | rfl | rfl | rfl | rfl | rfl |
    rfl | rfl | rfl | rfl
  all_goals rfl

/-- The characters of an escaped text are read one after the other. -/
theorem reads_escaped {s : State} (hs : s.flags = .default) (cs rest : List Char) :
    Reads (s, cs.flatMap escapeChar ++ rest)
      ({ s with items := wordItems cs ++ s.items }, rest) := by
  induction cs generalizing s with
  | nil => exact .refl
  | cons c cs ih =>
    have hlit : literalExpr s.flags c = .chars (.single c) := by rw [hs]; rfl
    have hrest := ih (s := s.push (.chars (.single c)) 0) hs
    have hskip (d : Char) (ds : List Char) : skip s.flags (d :: ds) = d :: ds := by rw [hs]; rfl
    have hitems : wordItems cs ++ (s.push (.chars (.single c)) 0).items =
        wordItems (c :: cs) ++ s.items := by simp [State.push, wordItems]
    rw [hitems, ← hlit] at hrest
    rw [List.flatMap_cons, List.append_assoc, escapeChar]
    split
    · next h => exact reads_cons (hskip '\\' _) (step_backslash h s _) hrest
    · next h =>
      exact reads_cons (hskip c _) (step_of_not_isMeta (eq_false_of_ne_true h) s _) hrest

end

end PatternReader

/-! ### The pattern of an escaped text -/

namespace Pattern

theorem toList_escape (text : String) :
    (escape text).toList = text.toList.flatMap PatternReader.escapeChar := String.toList_ofList

variable [Text.Properties]

/-- An escaped text can always be read between the start and the end of a text. -/
theorem read?_anchor_escape (text : String) :
    PatternReader.read? (anchor (escape text)) =
      some (PatternReader.wordState text.toList).whole := by
  have hreads := PatternReader.reads_escaped (s := .start) rfl text.toList [')', '$']
  have hitems : PatternReader.State.start.items = [] := rfl
  rw [← toList_escape, hitems, List.append_nil] at hreads
  exact PatternReader.read?_anchor_of_reads (s := PatternReader.wordState text.toList) rfl hreads
    rfl

/-- An escaped text can always be read as a pattern. -/
theorem compile?_escape (text : String) :
    compile? (escape text) = some ⟨escape text, Expr.wholeWord text.toList⟩ := by
  rw [compile?, Expr.read?, read?_anchor_escape, Option.map_some, PatternReader.State.body_whole,
    PatternReader.body_wordState]
  rfl

/-- The pattern of an escaped text matches that text and no other. -/
theorem accepts_escape {text : String} {p : Pattern} (hp : compile? (escape text) = some p)
    (other : String) : p.accepts other = decide (other = text) := by
  rw [compile?_escape, Option.some.injEq] at hp
  rw [← hp, accepts, Expr.occursIn_wholeWord]
  exact decide_eq_decide.mpr String.toList_inj

end Pattern

end CommandGrammar
