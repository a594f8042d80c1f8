import CommandGrammar.Proofs.Conversion
import CommandGrammar.Proofs.Converting
import CommandGrammar.Proofs.Escape

/-! Keys and values as tokens. A token matches the pattern if it is a key, the separator and a
value. The kind splits it at the first separator instead. Where the separator has a character that
no key has, this is the same. A separator of word characters may also stand at the start of a key:
such a token matches the pattern, but the kind finds no key in front of the separator and refuses
it. -/

namespace CommandGrammar

namespace Text

theorem Ranges.exists_of_contains {rs : Ranges} {n : Nat} (h : rs.contains n = true) :
    ∃ r ∈ rs, r.1 ≤ n ∧ n ≤ r.2 := by
  induction rs with
  | nil => cases h
  | cons r rs ih =>
    rw [Ranges.contains] at h
    split at h
    · cases h
    · next hlo =>
      rw [Bool.or_eq_true, decide_eq_true_eq] at h
      rcases h with hhi | hrest
      · exact ⟨r, List.mem_cons_self, Nat.le_of_not_lt hlo, hhi⟩
      · obtain ⟨r', hr', hin⟩ := ih hrest
        exact ⟨r', List.mem_cons_of_mem _ hr', hin⟩

/-- White space is no part of words. -/
theorem not_isBlank_of_isWordChar {c : Char} (h : isWordChar c = true) : isBlank c = false := by
  have hapart : ∀ r ∈ blankRanges, ∀ d ≤ r.2 - r.1, wordRanges.contains (r.1 + d) = false := by
    decide +kernel
  by_contra hblank
  rw [Bool.not_eq_false, isBlank] at hblank
  obtain ⟨r, hr, hlo, hhi⟩ := Ranges.exists_of_contains hblank
  have hnot := hapart r hr (c.toNat - r.1) (Nat.sub_le_sub_right hhi _)
  rw [Nat.add_sub_cancel' hlo, ← isWordChar.eq_def, h] at hnot
  cases hnot

end Text

/-! ### An escaped text between expressions -/

namespace Expr

/-- The expression of a text with something behind it. -/
def wordThen : List Char → Expr → Expr
  | [], e => e
  | c :: cs, e => .cat (.chars (.single c)) (wordThen cs e)

theorem matches_wordThen {cs : List Char} {e : Expr} {before behind : Option Char} {w : List Char} :
    (wordThen cs e).Matches before w behind ↔
      ∃ v, w = cs ++ v ∧ e.Matches (cs.getLast?.or before) v behind := by
  induction cs generalizing before w with
  | nil => exact ⟨fun h => ⟨w, rfl, h⟩, fun ⟨v, hw, h⟩ => hw ▸ h⟩
  | cons c cs ih =>
    rw [getLast?_cons_or]
    constructor
    · rintro ⟨u, rest, rfl, hu, hrest⟩
      obtain rfl := matches_single.mp hu
      obtain ⟨v, rfl, hv⟩ := ih.mp hrest
      exact ⟨v, rfl, hv⟩
    · rintro ⟨v, rfl, hv⟩
      exact ⟨[c], cs ++ v, rfl, matches_single.mpr rfl, ih.mpr ⟨v, rfl, hv⟩⟩

theorem bounded_wordThen (cs : List Char) {e : Expr} (h : e.Bounded) : (wordThen cs e).Bounded := by
  induction cs with
  | nil => exact h
  | cons c cs ih => exact ⟨trivial, ih⟩

/-- The expression of a key, `\w+`. -/
def key : Expr := .rep (.chars (.table Text.wordRanges)) 1 none

/-- The expression of a value, `\S+`. -/
def value : Expr := .rep (.chars (.complement (.table Text.blankRanges))) 1 none

/-- The expression of a key, a separator and a value. -/
def keyValue (separator : List Char) : Expr := .cat key (.wordThen separator value)

theorem bounded_keyValue (separator : List Char) : (keyValue separator).Bounded :=
  ⟨⟨trivial, nofun⟩, bounded_wordThen separator ⟨trivial, nofun⟩⟩

end Expr

namespace PatternReader

theorem branchExpr_append {items : List Item} {e : Expr} (h : branchExpr items = e)
    (hne : e ≠ .empty) (a : Expr) (depth : Nat) :
    branchExpr (items ++ [.expr a depth]) = .cat a e := by
  rw [branchExpr] at h
  rw [branchExpr, List.foldl_append, h]
  cases e with
  | empty => exact absurd rfl hne
  | _ => rfl

theorem branchExpr_wordThen {e : Expr} (hne : e ≠ .empty) (depth : Nat) (cs : List Char) :
    branchExpr (.expr e depth :: wordItems cs) = Expr.wordThen cs e ∧
      Expr.wordThen cs e ≠ .empty := by
  induction cs with
  | nil => exact ⟨rfl, hne⟩
  | cons c cs ih =>
    have hitems : Item.expr e depth :: wordItems (c :: cs) =
        (Item.expr e depth :: wordItems cs) ++ [.expr (.chars (.single c)) 0] := by
      simp [wordItems]
    rw [hitems, branchExpr_append ih.1 ih.2]
    exact ⟨rfl, Expr.noConfusion⟩

theorem skipLazy_of_ne {c : Char} (h : c ≠ '?') (cs : List Char) :
    skipLazy (c :: cs) = c :: cs := by
  rw [skipLazy.eq_def]
  split
  · next heq => exact absurd (List.cons.inj heq).1 h
  · rfl

/-- A question mark at the start of an escaped text does not count for the repetition before it. -/
theorem skipLazy_escaped (cs rest : List Char) :
    skipLazy (cs.flatMap escapeChar ++ '\\' :: rest) = cs.flatMap escapeChar ++ '\\' :: rest := by
  cases cs with
  | nil => exact skipLazy_of_ne (by decide) rest
  | cons c cs =>
    rw [List.flatMap_cons, List.append_assoc, escapeChar]
    split
    · exact skipLazy_of_ne (by decide) _
    · next h =>
      refine skipLazy_of_ne ?_ _
      rintro rfl
      exact h rfl

/-- The items of a key, a separator and a value. -/
def keyValueItems (separator : List Char) : List Item :=
  .expr Expr.value 1 :: (wordItems separator ++ [.expr Expr.key 1])

/-- What stands in front of the closing parenthesis is a key, the separator and a value. -/
theorem reads_keyValue (separator : List Char) :
    Reads (.start, '\\' :: 'w' :: '+' ::
        (separator.flatMap escapeChar ++ ['\\', 'S', '+', ')', '$']))
      ({ State.start with items := keyValueItems separator }, [')', '$']) := by
  refine reads_cons rfl rfl (reads_cons rfl rfl ?_)
  rw [skipLazy_escaped]
  exact (reads_escaped rfl separator _).trans
    (reads_cons rfl rfl (reads_cons rfl rfl .refl))

theorem branchExpr_keyValue (separator : List Char) :
    branchExpr (keyValueItems separator) = Expr.keyValue separator := by
  obtain ⟨hword, hne⟩ := branchExpr_wordThen (e := Expr.value) Expr.noConfusion 1 separator
  exact branchExpr_append hword hne Expr.key 1

end PatternReader

namespace Kind

/-! ### The pattern -/

/-- The pattern can be read for every separator. -/
theorem compile?_keyValue (separator : String) : ∃ source,
    (keyValue separator).pattern = some source ∧
      Pattern.compile? source = some ⟨source, (Expr.keyValue separator.toList).whole⟩ := by
  refine ⟨_, rfl, ?_⟩
  have htext : ("\\w+" ++ Pattern.escape separator ++ "\\S+").toList ++ [')', '$'] =
      '\\' :: 'w' :: '+' :: (separator.toList.flatMap PatternReader.escapeChar ++
        ['\\', 'S', '+', ')', '$']) := by
    rw [String.toList_append, String.toList_append, Pattern.toList_escape, List.append_assoc,
      List.append_assoc]
    rfl
  have hreads := PatternReader.reads_keyValue separator.toList
  rw [← htext] at hreads
  have hread := Expr.read?_anchor_of_reads rfl hreads rfl
  rw [Pattern.compile?, hread, ← PatternReader.branchExpr_keyValue]
  rfl

/-! ### Splitting -/

/-- A text in which the separator stands is split, and at no later place. -/
theorem exists_splitOnce? {separator cs front rest : List Char}
    (h : cs = front ++ (separator ++ rest)) :
    ∃ before behind, splitOnce? separator cs = some (before, behind) ∧
      cs = before ++ (separator ++ behind) ∧ before.length ≤ front.length := by
  induction cs generalizing front with
  | nil =>
    obtain ⟨rfl, hnil⟩ := List.append_eq_nil_iff.mp h.symm
    obtain ⟨rfl, rfl⟩ := List.append_eq_nil_iff.mp hnil
    exact ⟨[], [], rfl, rfl, Nat.le_refl 0⟩
  | cons c cs ih =>
    rw [splitOnce?]
    split
    · next hfront =>
      obtain ⟨behind, hbehind⟩ := List.isPrefixOf_iff_prefix.mp hfront
      rw [← hbehind, List.drop_left]
      exact ⟨[], behind, rfl, rfl, Nat.zero_le _⟩
    · next hnot =>
      cases front with
      | nil => exact absurd (List.isPrefixOf_iff_prefix.mpr ⟨rest, h.symm⟩) hnot
      | cons d front =>
        obtain ⟨rfl, hrest⟩ := List.cons.inj h
        obtain ⟨before, behind, hsplit, hcs, hle⟩ := ih hrest
        exact ⟨c :: before, behind, by rw [hsplit]; rfl, by rw [List.cons_append, ← hcs],
          Nat.succ_le_succ hle⟩

theorem nil_of_splitOnce? {separator cs : List Char} (h : separator <+: cs) :
    ∃ behind, splitOnce? separator cs = some ([], behind) := by
  obtain ⟨rest, rfl⟩ := h
  have hfirst : separator ++ rest = [] ++ (separator ++ rest) := rfl
  obtain ⟨before, behind, hsplit, -, hle⟩ := exists_splitOnce? hfirst
  obtain rfl := List.eq_nil_of_length_eq_zero (Nat.le_zero.mp hle)
  exact ⟨behind, hsplit⟩

/-! ### Keys and values -/

/-- The text is a key of word characters, the separator, and a value without white space. -/
structure IsKeyValue (separator key value text : String) : Prop where
  joined : text = key ++ separator ++ value
  key_ne : key ≠ ""
  key_word : ∀ c ∈ key.toList, Text.isWordChar c = true
  value_ne : value ≠ ""
  value_solid : ∀ c ∈ value.toList, Text.isBlank c = false

theorem contains_solid {c : Char} :
    (CharClass.complement (.table Text.blankRanges)).contains c.toNat = true ↔
      Text.isBlank c = false := by
  rw [CharClass.contains, Bool.not_eq_true']
  rfl

theorem IsKeyValue.toList_eq {separator key value text : String}
    (h : IsKeyValue separator key value text) :
    text.toList = key.toList ++ (separator.toList ++ value.toList) := by
  rw [h.joined, String.toList_append, String.toList_append, List.append_assoc]

theorem length_pos_of_ne_empty {s : String} (h : s ≠ "") : 1 ≤ s.toList.length :=
  List.length_pos_of_ne_nil (mt String.toList_eq_nil_iff.mp h)

/-- The pattern matches exactly the texts that are a key, the separator and a value. -/
theorem matches_keyValue {separator text : String} :
    (Expr.keyValue separator.toList).Matches none text.toList none ↔
      ∃ key value, IsKeyValue separator key value text := by
  constructor
  · rintro ⟨k, rest, htext, hkey, hrest⟩
    obtain ⟨v, rfl, hvalue⟩ := Expr.matches_wordThen.mp hrest
    obtain ⟨hk, hword⟩ := Expr.matches_rep_chars_iff.mp hkey
    obtain ⟨hv, hsolid⟩ := Expr.matches_rep_chars_iff.mp hvalue
    refine ⟨String.ofList k, String.ofList v, ?_, ?_, ?_, ?_, ?_⟩
    · rw [← String.toList_inj, htext]
      simp
    · simpa using List.ne_nil_of_length_pos hk
    · rwa [String.toList_ofList]
    · simpa using List.ne_nil_of_length_pos hv
    · rw [String.toList_ofList]
      exact fun c hc => contains_solid.mp (hsolid c hc)
  · rintro ⟨key, value, h⟩
    refine ⟨key.toList, _, h.toList_eq,
      Expr.matches_rep_chars_iff.mpr ⟨length_pos_of_ne_empty h.key_ne, h.key_word⟩,
      Expr.matches_wordThen.mpr ⟨value.toList, rfl, ?_⟩⟩
    exact Expr.matches_rep_chars_iff.mpr
      ⟨length_pos_of_ne_empty h.value_ne, fun c hc => contains_solid.mpr (h.value_solid c hc)⟩

/-- A separator that begins inside a key is made of word characters: the key's, and then its own
over again. -/
theorem word_of_overlap {P : Char → Prop} {key separator value before behind : List Char}
    (h : key ++ (separator ++ value) = before ++ (separator ++ behind))
    (hlt : before.length < key.length) (hkey : ∀ c ∈ key, P c) : ∀ c ∈ separator, P c := by
  have hat (i : Nat) : ∀ hi : i < separator.length, P separator[i] := by
    induction i using Nat.strongRecOn with
    | _ i ih =>
      intro hi
      have hget : separator[i]? = (key ++ (separator ++ value))[before.length + i]? := by
        rw [h, List.getElem?_append_right (Nat.le_add_right _ _), Nat.add_sub_cancel_left,
          List.getElem?_append_left hi]
      by_cases hin : before.length + i < key.length
      · rw [List.getElem?_append_left hin, List.getElem?_eq_getElem hin,
          List.getElem?_eq_getElem hi, Option.some_inj] at hget
        exact hget ▸ hkey _ (List.getElem_mem hin)
      · have hj : before.length + i - key.length < separator.length := by omega
        rw [List.getElem?_append_right (Nat.le_of_not_lt hin), List.getElem?_append_left hj,
          List.getElem?_eq_getElem hj, List.getElem?_eq_getElem hi, Option.some_inj] at hget
        exact hget ▸ ih _ (by omega) hj
  intro c hc
  obtain ⟨i, hi, rfl⟩ := List.getElem_of_mem hc
  exact hat i hi

/-- Split earlier, the text is still a key, the separator and a value, if the key is not empty. -/
theorem IsKeyValue.earlier {separator key value text : String}
    (h : IsKeyValue separator key value text) {before behind : List Char}
    (htext : text.toList = before ++ (separator.toList ++ behind)) (hne : before ≠ [])
    (hle : before.length ≤ key.toList.length) :
    IsKeyValue separator (String.ofList before) (String.ofList behind) text := by
  have hsame : key.toList ++ (separator.toList ++ value.toList) =
      before ++ (separator.toList ++ behind) := h.toList_eq.symm.trans htext
  have hfront : before <+: key.toList :=
    List.prefix_of_prefix_length_le ⟨_, hsame.symm⟩ ⟨_, rfl⟩ hle
  have hlength := congrArg List.length hsame
  have hvalue := length_pos_of_ne_empty h.value_ne
  simp only [List.length_append] at hlength
  have hsolid : ∀ c ∈ behind, Text.isBlank c = false := by
    rcases Nat.lt_or_eq_of_le hle with hlt | heq
    · have hsep := word_of_overlap hsame hlt h.key_word
      intro c hc
      have hmem : c ∈ key.toList ++ (separator.toList ++ value.toList) := by
        rw [hsame]
        exact List.mem_append_right _ (List.mem_append_right _ hc)
      rcases List.mem_append.mp hmem with hc | hc
      · exact Text.not_isBlank_of_isWordChar (h.key_word c hc)
      · rcases List.mem_append.mp hc with hc | hc
        · exact Text.not_isBlank_of_isWordChar (hsep c hc)
        · exact h.value_solid c hc
    · have hrest := (List.append_inj hsame heq.symm).2
      rw [← List.append_cancel_left hrest]
      exact h.value_solid
  exact
    { joined := by
        rw [← String.toList_inj, htext]
        simp
      key_ne := by simpa using hne
      key_word := by
        rw [String.toList_ofList]
        exact fun c hc => h.key_word c (hfront.subset hc)
      value_ne := by
        rintro hnil
        have hbehind : behind = [] := by simpa using hnil
        rw [hbehind, List.length_nil] at hlength
        omega
      value_solid := by rwa [String.toList_ofList] }

theorem parse_keyValue {separator text : String} {before behind : List Char}
    (h : splitOnce? separator.toList text.toList = some (before, behind)) :
    (keyValue separator).parse text = if before.isEmpty || behind.isEmpty then
      refuse "key-value pair" text
    else .ok (.pair (String.ofList before) (String.ofList behind)) := by
  simp only [keyValue, plain, h]

/-- A text that begins with the separator is refused. -/
theorem parse_keyValue_of_prefix {separator text : String}
    (h : separator.toList <+: text.toList) :
    (keyValue separator).parse text = .error ⟨text, none, some "key-value pair"⟩ := by
  obtain ⟨behind, hsplit⟩ := nil_of_splitOnce? h
  rw [parse_keyValue hsplit]
  rfl

/-- Any other text that is a key, the separator and a value is split into such a key and value. -/
theorem IsKeyValue.exists_parse {separator key value text : String}
    (h : IsKeyValue separator key value text) (hstart : ¬separator.toList <+: text.toList) :
    ∃ key value, IsKeyValue separator key value text ∧
      (keyValue separator).parse text = .ok (.pair key value) := by
  obtain ⟨before, behind, hsplit, hcs, hle⟩ := exists_splitOnce? h.toList_eq
  have hne : before ≠ [] := by
    rintro rfl
    exact hstart ⟨behind, hcs.symm⟩
  have hpair := h.earlier hcs hne hle
  have hbehind : behind ≠ [] := by simpa using hpair.value_ne
  refine ⟨_, _, hpair, ?_⟩
  rw [parse_keyValue hsplit, if_neg (by simp [hne, hbehind])]

/-- A key has no other characters than word characters, so a separator with another one cannot
stand at the start. -/
theorem IsKeyValue.not_prefix {separator key value text : String}
    (h : IsKeyValue separator key value text)
    (hsep : ∃ c ∈ separator.toList, Text.isWordChar c = false) :
    ¬separator.toList <+: text.toList := by
  rintro ⟨behind, hbehind⟩
  have hsame : key.toList ++ (separator.toList ++ value.toList) =
      [] ++ (separator.toList ++ behind) := h.toList_eq.symm.trans hbehind.symm
  obtain ⟨c, hc, hnot⟩ := hsep
  have hword := word_of_overlap hsame (length_pos_of_ne_empty h.key_ne) h.key_word c hc
  cases hnot.symm.trans hword

/-- The pattern of a kind for keys and values can always be read, and it matches exactly the texts
that are a key, the separator and a value. Such a text is split into a key and a value unless it
begins with the separator; then it is refused. If the separator has a character that is no word
character, no such text begins with it. -/
theorem key_value_split (separator : String) :
    ∃ p, (keyValue separator).pattern.bind Pattern.compile? = some p ∧
      ∀ text, (p.accepts text = true ↔ ∃ key value, IsKeyValue separator key value text) ∧
        (p.accepts text = true →
          (¬separator.toList <+: text.toList → ∃ key value, IsKeyValue separator key value text ∧
            (keyValue separator).parse text = .ok (.pair key value)) ∧
          (separator.toList <+: text.toList →
            (keyValue separator).parse text = .error ⟨text, none, some "key-value pair"⟩) ∧
          ((∃ c ∈ separator.toList, Text.isWordChar c = false) →
            ¬separator.toList <+: text.toList)) := by
  obtain ⟨source, hsource, hcompile⟩ := compile?_keyValue separator
  refine ⟨_, by rw [hsource, Option.bind_some, hcompile], fun text => ?_⟩
  have haccepts : (Pattern.mk source (Expr.keyValue separator.toList).whole).accepts text = true ↔
      ∃ key value, IsKeyValue separator key value text :=
    (Expr.occursIn_whole (Expr.bounded_keyValue _) text).trans matches_keyValue
  refine ⟨haccepts, fun htext => ?_⟩
  obtain ⟨key, value, h⟩ := haccepts.mp htext
  exact ⟨h.exists_parse, parse_keyValue_of_prefix, h.not_prefix⟩

/-- The separator stands in the value once more, and is no word character. -/
theorem key_value_split_equals :
    IsKeyValue "=" "key" "a=b" "key=a=b" ∧
    ∃ p, (keyValue "=").pattern.bind Pattern.compile? = some p ∧ p.accepts "key=a=b" = true ∧
      ¬"=".toList <+: "key=a=b".toList ∧
      ∃ key value, IsKeyValue "=" key value "key=a=b" ∧
        (keyValue "=").parse "key=a=b" = .ok (.pair key value) := by
  have hpair : IsKeyValue "=" "key" "a=b" "key=a=b" :=
    ⟨rfl, by decide, List.all_eq_true.mp (by decide +kernel), by decide,
      Text.not_blank_of_all (by decide +kernel)⟩
  obtain ⟨p, hp, hall⟩ := key_value_split "="
  obtain ⟨haccepts, hsplit⟩ := hall "key=a=b"
  have htext := haccepts.mpr ⟨_, _, hpair⟩
  have hstart := (hsplit htext).2.2 ⟨'=', by decide, by decide +kernel⟩
  exact ⟨hpair, p, hp, htext, hstart, (hsplit htext).1 hstart⟩

/-- A key that begins with the separator: the text matches the pattern, and the kind has no pair for
it. -/
theorem separator_first_refused :
    IsKeyValue "_" "_id" "7" "_id_7" ∧
    (∃ p, (keyValue "_").pattern.bind Pattern.compile? = some p ∧ p.accepts "_id_7" = true) ∧
    (keyValue "_").parse "_id_7" = .error ⟨"_id_7", none, some "key-value pair"⟩ ∧
    ∀ key value, (keyValue "_").parse "_id_7" ≠ .ok (.pair key value) := by
  have hstart : "_".toList <+: "_id_7".toList := by decide
  have hparse := parse_keyValue_of_prefix hstart
  have hpair : IsKeyValue "_" "_id" "7" "_id_7" :=
    ⟨rfl, by decide, List.all_eq_true.mp (by decide +kernel), by decide,
      Text.not_blank_of_all (by decide +kernel)⟩
  obtain ⟨source, hsource, hcompile⟩ := compile?_keyValue "_"
  refine ⟨hpair, ⟨_, by rw [hsource, Option.bind_some, hcompile], ?_⟩, hparse, ?_⟩
  · exact (Expr.occursIn_whole (Expr.bounded_keyValue _) _).mpr
      (matches_keyValue.mpr ⟨_, _, hpair⟩)
  · rw [hparse]
    exact nofun

end Kind

end CommandGrammar
