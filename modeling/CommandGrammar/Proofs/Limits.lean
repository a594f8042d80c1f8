import CommandGrammar.Proofs.Escape

/-! The room that patterns take. An expression between the start and the end of a text takes a fixed
room more than by itself, and two levels of nesting more. The expression of a text takes as much for
each byte of the text, so that the limits bound the length of a text that a pattern can be made
of. -/

namespace CommandGrammar

namespace Expr

/-- What an expression takes does not depend on what has been taken before. -/
theorem weightAfter_eq (e : Expr) (taken : Nat) : e.weightAfter taken = taken + e.weight := by
  induction e generalizing taken with
  | cat a b iha ihb =>
    simp only [weight, weightAfter]
    rw [ihb, iha, ihb (a.weightAfter 0), iha 0]
    omega
  | alt a b iha ihb =>
    simp only [weight, weightAfter]
    rw [ihb, iha, ihb (a.weightAfter 0 + 40), iha 0]
    omega
  | _ => simp only [weight, weightAfter, Nat.zero_add]

theorem weight_cat (a b : Expr) : (cat a b).weight = a.weight + b.weight := by
  change b.weightAfter a.weight = _
  rw [weightAfter_eq]

theorem weight_whole (e : Expr) : e.whole.weight = e.weight + 64 := by
  rw [whole, weight_cat, weight_cat]
  change 32 + (e.weight + 32) = _
  omega

theorem weight_single (c : Char) : (chars (.single c)).weight = 32 * c.utf8Size := by
  change 0 + (CharClass.range c.toNat c.toNat).weight = _
  rw [CharClass.weight, if_pos rfl, Char.ofNat_toNat, Nat.zero_add]

/-- The expression of a text takes as much for each byte of the text. -/
theorem weight_word {cs : List Char} (h : cs ≠ []) :
    (word cs).weight = 32 * (String.ofList cs).utf8ByteSize := by
  induction cs with
  | nil => exact absurd rfl h
  | cons c cs ih =>
    rw [String.ofList_cons, String.utf8ByteSize_append, String.utf8ByteSize_singleton]
    cases cs with
    | nil => exact weight_single c
    | cons d cs =>
      rw [word_cons_cons, weight_cat, weight_single, ih (List.cons_ne_nil d cs), Nat.mul_add]

end Expr

namespace PatternReader

/-- The characters of a text are not nested. -/
theorem depth_wordState (cs : List Char) : (wordState cs).depth ≤ 1 := by
  have hitems : ((wordItems cs).map Item.depth).foldl max 0 = 0 := by
    rw [wordItems, List.map_reverse, List.map_map, List.foldl_reverse]
    induction cs with
    | nil => rfl
    | cons c cs ih => exact congrArg (max · 0) ih
  change max 0 (joinDepth ((wordItems cs).map Item.depth)) + 0 ≤ 1
  rw [joinDepth, hitems]
  split <;> decide

end PatternReader

namespace PatternDialect

theorem keepsLimits_iff {s : PatternReader.State} : keepsLimits s = true ↔
    s.depth ≤ depthLimit ∧ s.body.weight + frameWeight ≤ weightLimit := by
  rw [keepsLimits, Bool.and_eq_true, decide_eq_true_iff, decide_eq_true_iff]

/-- The start and the end of a text around an expression take 64 bytes and two levels. -/
theorem keepsLimits_whole_iff {s : PatternReader.State} : keepsLimits s.whole = true ↔
    s.depth + 2 ≤ depthLimit ∧ s.body.weight + 64 + frameWeight ≤ weightLimit := by
  rw [keepsLimits_iff, PatternReader.State.depth_whole, PatternReader.State.body_whole,
    Expr.weight_whole]

theorem admits_of_read? {text : String} {s : PatternReader.State}
    (h : PatternReader.read? text = some s) : standard.admits text = keepsLimits s := by
  change (PatternReader.read? text).any keepsLimits = _
  rw [h, Option.any_some]

/-- The pattern of a text keeps the limits exactly if the text has no more than so many bytes. -/
theorem admits_escape_iff (text : String) :
    standard.admits (Pattern.anchor (Pattern.escape text)) = true ↔
      text.utf8ByteSize ≤ 327674 := by
  have hdepth := PatternReader.depth_wordState text.toList
  rw [admits_of_read? (Pattern.read?_anchor_escape text), keepsLimits_whole_iff,
    PatternReader.body_wordState, and_iff_right (by rw [depthLimit]; omega), frameWeight]
  have hlimit : weightLimit = 10485760 := rfl
  by_cases hempty : text = ""
  · subst hempty
    decide
  · rw [Expr.weight_word (mt String.toList_eq_nil_iff.mp hempty), String.ofList_toList]
    omega

end PatternDialect

end CommandGrammar
