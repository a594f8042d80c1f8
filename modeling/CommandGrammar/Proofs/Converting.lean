import CommandGrammar.Kind.Network
import CommandGrammar.Kind.Number
import CommandGrammar.Kind.Word
import CommandGrammar.Proofs.Matching

/-! Tokens that have a value. A variable takes a token only if the pattern of its kind matches it
and the kind has a value for it. For integers, for yes or no and for addresses the second asks for
more than the first: what can be converted matches the pattern, so that the pattern refuses
nothing. -/

namespace CommandGrammar

/-! ### Expressions -/

namespace Expr

/-- A word of members of a class is as many rounds of it. -/
theorem rounds_chars {cls : CharClass} {w : List Char}
    (h : ∀ c ∈ w, cls.contains c.toNat = true) (before behind : Option Char) :
    Rounds (chars cls).Matches w.length before w behind := by
  induction w generalizing before with
  | nil => exact .none
  | cons c w ih =>
    rw [List.forall_mem_cons] at h
    exact .more (u := [c]) ⟨c, rfl, h.1⟩ (ih h.2 _)

/-- A repetition of a class matches words of its members. -/
theorem matches_rep_chars {cls : CharClass} {least : Nat} {w : List Char}
    (h : ∀ c ∈ w, cls.contains c.toNat = true) (hle : least ≤ w.length)
    (before behind : Option Char) :
    (rep (chars cls) least none).Matches before w behind :=
  ⟨w.length, hle, nofun, rounds_chars h before behind⟩

/-- Each round of a class is one of its members. -/
theorem Rounds.of_chars {cls : CharClass} {n : Nat} {before behind : Option Char} {w : List Char}
    (h : Rounds (chars cls).Matches n before w behind) :
    w.length = n ∧ ∀ c ∈ w, cls.contains c.toNat = true := by
  induction h with
  | none => exact ⟨rfl, List.forall_mem_nil _⟩
  | more first _ ih =>
    obtain ⟨c, rfl, hc⟩ := first
    exact ⟨congrArg (· + 1) ih.1, List.forall_mem_cons.mpr ⟨hc, ih.2⟩⟩

/-- A repetition of a class matches exactly the words of its members that are long enough. -/
theorem matches_rep_chars_iff {cls : CharClass} {least : Nat} {before behind : Option Char}
    {w : List Char} :
    (rep (chars cls) least none).Matches before w behind ↔
      least ≤ w.length ∧ ∀ c ∈ w, cls.contains c.toNat = true := by
  constructor
  · rintro ⟨n, hle, -, hrounds⟩
    obtain ⟨rfl, hall⟩ := hrounds.of_chars
    exact ⟨hle, hall⟩
  · exact fun h => matches_rep_chars h.2 h.1 before behind

/-- The expression of a text in capital or small letters. -/
def anyCaseWord : List Char → Expr
  | [] => .empty
  | [c] => .chars (.anyCase (.single c))
  | c :: cs => .cat (.chars (.anyCase (.single c))) (anyCaseWord cs)

/-- The expression of one of several texts in capital or small letters. -/
def anyCaseWords : List String → Expr
  | [] => .empty
  | [w] => anyCaseWord w.toList
  | w :: ws => .alt (anyCaseWord w.toList) (anyCaseWords ws)

theorem bounded_anyCaseWord (cs : List Char) : (anyCaseWord cs).Bounded := by
  induction cs with
  | nil => trivial
  | cons c cs ih =>
    cases cs with
    | nil => trivial
    | cons d cs => exact ⟨trivial, ih⟩

theorem bounded_anyCaseWords (ws : List String) : (anyCaseWords ws).Bounded := by
  induction ws with
  | nil => trivial
  | cons w ws ih =>
    cases ws with
    | nil => exact bounded_anyCaseWord _
    | cons v ws => exact ⟨bounded_anyCaseWord _, ih⟩

theorem toNat_toLower (c : Char) :
    c.toLower.toNat = if 65 ≤ c.toNat ∧ c.toNat ≤ 90 then c.toNat + 32 else c.toNat := by
  unfold Char.toLower
  split
  · next h =>
    have hc : 65 ≤ c.toNat ∧ c.toNat ≤ 90 := h
    rw [if_pos hc]
    have hval : (c.val + ('a'.val - 'A'.val)).toNat = c.val.toNat + 32 := by
      have hlt : c.val.toNat ≤ 90 := hc.2
      have hd : ('a'.val - 'A'.val).toNat = 32 := rfl
      rw [UInt32.toNat_add, hd]
      omega
    exact hval
  · next h =>
    have hc : ¬(65 ≤ c.toNat ∧ c.toNat ≤ 90) := h
    rw [if_neg hc]

/-- A capital letter is a case variant of the small one. -/
theorem mem_caseVariants : ∀ n < 128,
    (if 65 ≤ n ∧ n ≤ 90 then n + 32 else n) ∈ Text.caseVariants n := by
  decide +kernel

theorem contains_anyCase_toLower {c : Char} (h : c.toLower.toNat < 128) :
    (CharClass.anyCase (.single c.toLower)).contains c.toNat = true := by
  have hlt : c.toNat < 128 := by
    rw [toNat_toLower] at h
    split at h <;> omega
  have hmem := mem_caseVariants c.toNat hlt
  rw [← toNat_toLower] at hmem
  exact List.any_eq_true.mpr ⟨_, hmem, by rw [contains_single, beq_self_eq_true]⟩

/-- A word that is a text but for capital letters matches the expression of that text. -/
theorem matches_anyCaseWord {w : List Char} (h : ∀ c ∈ w.map Char.toLower, c.toNat < 128)
    (before behind : Option Char) :
    (anyCaseWord (w.map Char.toLower)).Matches before w behind := by
  induction w generalizing before with
  | nil => rfl
  | cons c w ih =>
    rw [List.map_cons, List.forall_mem_cons] at h
    have hc := contains_anyCase_toLower h.1
    cases w with
    | nil => exact ⟨c, rfl, hc⟩
    | cons d w => exact ⟨[c], d :: w, rfl, ⟨c, rfl, hc⟩, ih h.2 _⟩

theorem matches_anyCaseWords {ws : List String} {w : String} (hw : w ∈ ws)
    {before behind : Option Char} {u : List Char}
    (h : (anyCaseWord w.toList).Matches before u behind) :
    (anyCaseWords ws).Matches before u behind := by
  induction ws with
  | nil => cases hw
  | cons v ws ih =>
    cases ws with
    | nil => exact List.mem_singleton.mp hw ▸ h
    | cons v' ws =>
      rcases List.mem_cons.mp hw with rfl | hw
      · exact .inl h
      · exact .inr (ih hw)

end Expr

namespace Kind

/-- Every token that the kind has a value for matches the pattern of the kind. -/
def FitsValues (k : Kind) : Prop :=
  ∀ t v, k.parse t = .ok v → ∀ source ∈ k.pattern, ∀ p, Pattern.compile? source = some p →
    p.accepts t = true

/-- It is enough to look at the expression of the pattern. -/
theorem fitsValues_of_matches {k : Kind} {source : String} {e : Expr} (hb : e.Bounded)
    (hsource : k.pattern = some source)
    (hcompile : Pattern.compile? source = some ⟨source, e.whole⟩)
    (h : ∀ t v, k.parse t = .ok v → e.Matches none t.toList none) : k.FitsValues := by
  intro t v ht other hother p hp
  rw [hsource, Option.mem_some_iff] at hother
  rw [← hother, hcompile, Option.some_inj] at hp
  rw [← hp]
  exact (Expr.occursIn_whole hb t).mpr (h t v ht)

end Kind

/-! ### Integers -/

namespace Decimal

theorem digit_of_digit? {c : Char} {d : Nat} (h : digit? c = some d) :
    48 ≤ c.toNat ∧ c.toNat ≤ 57 := by
  unfold digit? at h
  split at h
  · next hc =>
    rw [Bool.and_eq_true, decide_eq_true_eq, decide_eq_true_eq] at hc
    exact hc
  · cases h

theorem digits_of_readDigits {bound : Nat} {excess : NumeralError} {cs : List Char} {value n : Nat}
    (h : readDigits bound excess value cs = .ok n) : ∀ c ∈ cs, 48 ≤ c.toNat ∧ c.toNat ≤ 57 := by
  induction cs generalizing value with
  | nil => exact List.forall_mem_nil _
  | cons c cs ih =>
    rw [readDigits] at h
    split at h
    · cases h
    · next d hd =>
      split at h
      · cases h
      · exact List.forall_mem_cons.mpr ⟨digit_of_digit? hd, ih h⟩

/-- What can be read as a natural number is one or more digits. -/
theorem digits_of_readMagnitude {bound : Nat} {excess : NumeralError} {cs : List Char} {n : Nat}
    (h : readMagnitude bound excess cs = .ok n) :
    1 ≤ cs.length ∧ ∀ c ∈ cs, 48 ≤ c.toNat ∧ c.toNat ≤ 57 := by
  unfold readMagnitude at h
  split at h
  · cases h
  · next hne =>
    refine ⟨?_, digits_of_readDigits h⟩
    rw [List.isEmpty_iff] at hne
    exact List.length_pos_of_ne_nil hne

theorem le_of_readDigits {bound : Nat} {excess : NumeralError} {cs : List Char} {value n : Nat}
    (hvalue : value ≤ bound) (h : readDigits bound excess value cs = .ok n) : n ≤ bound := by
  induction cs generalizing value with
  | nil =>
    cases h
    exact hvalue
  | cons c cs ih =>
    rw [readDigits] at h
    split at h
    · cases h
    · split at h
      · cases h
      · next hle => exact ih (Nat.le_of_not_lt hle) h

theorem le_of_readMagnitude {bound : Nat} {excess : NumeralError} {cs : List Char} {n : Nat}
    (h : readMagnitude bound excess cs = .ok n) : n ≤ bound := by
  unfold readMagnitude at h
  split at h
  · cases h
  · exact le_of_readDigits (Nat.zero_le bound) h

/-- An integer is read as a natural number behind an optional sign, which decides its bound. -/
theorem exists_of_readInteger {below above : Nat} {cs : List Char} {n : Int}
    (h : readInteger below above cs = .ok n) :
    ∃ sign digits m, cs = sign ++ digits ∧
      (sign = ['-'] ∧ readMagnitude below .tooSmall digits = .ok m ∧ n = -(m : Int) ∨
        (sign = [] ∨ sign = ['+']) ∧ readMagnitude above .tooLarge digits = .ok m ∧ n = m) := by
  have hok {magnitude : Except NumeralError Nat} {f : Int → Int}
      (h : Except.map f (do let a ← magnitude; pure (a : Int)) = .ok n) :
      ∃ m : Nat, magnitude = .ok m ∧ n = f m := by
    cases magnitude with
    | error e => cases h
    | ok m =>
      cases h
      exact ⟨m, rfl, rfl⟩
  unfold readInteger at h
  split at h
  · next digits =>
    obtain ⟨m, hm, hn⟩ := hok h
    exact ⟨['-'], digits, m, rfl, .inl ⟨rfl, hm, hn⟩⟩
  · next digits =>
    obtain ⟨m, hm, hn⟩ := hok h
    exact ⟨['+'], digits, m, rfl, .inr ⟨.inr rfl, hm, hn⟩⟩
  · obtain ⟨m, hm, hn⟩ := hok h
    exact ⟨[], cs, m, rfl, .inr ⟨.inl rfl, hm, hn⟩⟩

theorem bounds_of_readInteger {below above : Nat} {cs : List Char} {n : Int}
    (h : readInteger below above cs = .ok n) : -(below : Int) ≤ n ∧ n ≤ above := by
  obtain ⟨sign, digits, m, -, ⟨-, hm, rfl⟩ | ⟨-, hm, rfl⟩⟩ := exists_of_readInteger h
  all_goals
    have hle := le_of_readMagnitude hm
    omega

end Decimal

namespace Kind

/-- The expression of an integer: an optional sign, and digits. -/
def integerExpr : Expr :=
  .cat (.rep (.chars (.union (.union .none (.range 45 45)) (.range 43 43))) 0 (some 1))
    (.rep (.chars (.table Text.decimalDigitRanges)) 1 none)

theorem compile?_integer :
    Pattern.compile? "[-+]?\\d+" = some ⟨"[-+]?\\d+", integerExpr.whole⟩ := by
  decide +kernel

/-- The value of an integer is the number that the token is read as. -/
theorem exists_of_parse_integer {t : String} {v : Value} (h : integer.parse t = .ok v) :
    ∃ n, v = .int n ∧ Decimal.readInteger (Nat.pow 2 63) (Nat.pow 2 63 - 1) t.toList = .ok n := by
  simp only [integer, plain] at h
  split at h
  · next n hn =>
    cases h
    exact ⟨n, rfl, hn⟩
  all_goals cases h

theorem integer_fitsValues : integer.FitsValues := by
  refine fitsValues_of_matches (e := integerExpr) ⟨⟨trivial, fun m _ => Nat.zero_le m⟩, trivial,
    nofun⟩ rfl compile?_integer fun t v ht => ?_
  obtain ⟨n, -, hn⟩ := exists_of_parse_integer ht
  obtain ⟨sign, digits, m, htext, hread⟩ := Decimal.exists_of_readInteger hn
  have hdigits : 1 ≤ digits.length ∧ ∀ c ∈ digits, 48 ≤ c.toNat ∧ c.toNat ≤ 57 := by
    rcases hread with ⟨-, hm, -⟩ | ⟨-, hm, -⟩
    all_goals exact Decimal.digits_of_readMagnitude hm
  have hsign : sign = [] ∨ sign = ['-'] ∨ sign = ['+'] := by
    rcases hread with ⟨hsign, -⟩ | ⟨hsign | hsign, -⟩
    · exact .inr (.inl hsign)
    · exact .inl hsign
    · exact .inr (.inr hsign)
  refine ⟨sign, digits, htext, ?_, Expr.matches_rep_chars (fun c hc => ?_) hdigits.1 _ _⟩
  · rcases hsign with rfl | rfl | rfl
    · exact ⟨0, Nat.le_refl 0, fun _ _ => Nat.zero_le _, .none⟩
    all_goals
      refine ⟨1, Nat.zero_le 1, fun m hm => Nat.le_of_eq (Option.some.inj hm), ?_⟩
      exact .more (u := [_]) (v := []) ⟨_, rfl, by decide⟩ .none
  · have hall : ∀ n < 58, 48 ≤ n → Text.decimalDigitRanges.contains n = true := by decide +kernel
    exact hall c.toNat (Nat.lt_succ_of_le (hdigits.2 c hc).2) (hdigits.2 c hc).1

/-! ### Yes or no -/

theorem compile?_boolean : boolean.pattern.bind Pattern.compile? =
    boolean.pattern.map fun source =>
      ⟨source, (Expr.anyCaseWords (yesWords ++ noWords)).whole⟩ := by
  decide +kernel

theorem words_ascii : ∀ w ∈ yesWords ++ noWords, ∀ c ∈ w.toList, c.toNat < 128 := by
  have hall : ((yesWords ++ noWords).all fun w => w.toList.all fun c => c.toNat < 128) = true := by
    decide +kernel
  intro w hw c hc
  exact of_decide_eq_true (List.all_eq_true.mp (List.all_eq_true.mp hall w hw) c hc)

theorem exists_of_parse_boolean {t : String} {v : Value} (h : boolean.parse t = .ok v) :
    ∃ on, v = .bool on ∧ t.map Char.toLower ∈ yesWords ++ noWords := by
  change (if yesWords.contains (t.map Char.toLower) then Except.ok (Value.bool true)
    else if noWords.contains (t.map Char.toLower) then .ok (.bool false)
    else refuse "boolean" t) = .ok v at h
  rw [List.mem_append]
  split at h
  · next hyes =>
    cases h
    exact ⟨true, rfl, .inl (List.contains_iff_mem.mp hyes)⟩
  · split at h
    · next hno =>
      cases h
      exact ⟨false, rfl, .inr (List.contains_iff_mem.mp hno)⟩
    · cases h

theorem boolean_fitsValues : boolean.FitsValues := by
  refine fitsValues_of_matches (Expr.bounded_anyCaseWords (yesWords ++ noWords)) rfl
    compile?_boolean fun t v ht => ?_
  obtain ⟨-, -, hmem⟩ := exists_of_parse_boolean ht
  have hchars := words_ascii _ hmem
  rw [String.toList_map] at hchars
  refine Expr.matches_anyCaseWords hmem ?_
  rw [String.toList_map]
  exact Expr.matches_anyCaseWord hchars _ _

end Kind

/-! ### Addresses -/

namespace Address

/-- The character may stand in the text of an address. -/
def IsAddressChar (c : Char) : Prop := (hexDigit? c).isSome = true ∨ c = ':' ∨ c = '.'

theorem isAddressChar_of_digit {c : Char} (h : 48 ≤ c.toNat ∧ c.toNat ≤ 57) : IsAddressChar c := by
  left
  have hc : ('0' ≤ c && c ≤ '9') = true := by
    rw [Bool.and_eq_true, decide_eq_true_eq, decide_eq_true_eq]
    exact h
  rw [hexDigit?, if_pos hc]
  rfl

/-- What stands in a text stands in one of the pieces between separators, or separates them. -/
theorem mem_splitOn_or_eq {sep c : Char} {cs : List Char} (h : c ∈ cs) :
    (∃ piece ∈ cs.splitOn sep, c ∈ piece) ∨ c = sep := by
  have hpieces (pieces : List (List Char)) (hc : c ∈ [sep].intercalate pieces) :
      (∃ piece ∈ pieces, c ∈ piece) ∨ c = sep := by
    induction pieces with
    | nil => cases hc
    | cons first pieces ih =>
      cases pieces with
      | nil => exact .inl ⟨first, List.mem_cons_self, by simpa using hc⟩
      | cons second pieces =>
        rw [List.intercalate_cons_cons, List.mem_append, List.mem_append, List.mem_singleton] at hc
        rcases hc with (hc | hc) | hc
        · exact .inl ⟨first, List.mem_cons_self, hc⟩
        · exact .inr hc
        · exact (ih hc).imp_left fun ⟨piece, hpiece, hc⟩ =>
            ⟨piece, List.mem_cons_of_mem _ hpiece, hc⟩
  have hjoined : [sep].intercalate (cs.splitOn sep) = cs := List.intercalate_splitOn sep
  exact hpieces _ (hjoined.symm ▸ h)

/-- A text has the characters of an address if the pieces between its separators have. -/
theorem chars_of_pieces {sep : Char} (hsep : IsAddressChar sep) {cs : List Char}
    (h : ∀ piece ∈ cs.splitOn sep, ∀ c ∈ piece, IsAddressChar c) : ∀ c ∈ cs, IsAddressChar c := by
  intro c hc
  have hor : (∃ piece ∈ cs.splitOn sep, c ∈ piece) ∨ c = sep := mem_splitOn_or_eq hc
  rcases hor with ⟨piece, hpiece, hmem⟩ | rfl
  · exact h piece hpiece c hmem
  · exact hsep

theorem exists_of_mapM_eq_some {α β : Type} {f : α → Option β} {l : List α} {r : List β}
    (h : l.mapM f = some r) : ∀ a ∈ l, ∃ b, f a = some b := by
  induction l generalizing r with
  | nil => exact List.forall_mem_nil _
  | cons a l ih =>
    rw [List.mapM_cons] at h
    obtain ⟨b, hb, h⟩ := Option.bind_eq_some_iff.mp h
    obtain ⟨bs, hbs, -⟩ := Option.bind_eq_some_iff.mp h
    exact List.forall_mem_cons.mpr ⟨⟨b, hb⟩, ih hbs⟩

theorem chars_of_readOctet? {cs : List Char} {n : UInt8} (h : readOctet? cs = some n) :
    ∀ c ∈ cs, IsAddressChar c := by
  unfold readOctet? at h
  split at h
  · cases h
  · split at h
    · next n hn =>
      exact fun c hc => isAddressChar_of_digit ((Decimal.digits_of_readMagnitude hn).2 c hc)
    · cases h

theorem chars_of_readDotted? {cs : List Char} {octets : UInt8 × UInt8 × UInt8 × UInt8}
    (h : readDotted? cs = some octets) : ∀ c ∈ cs, IsAddressChar c := by
  unfold readDotted? at h
  split at h
  · next a b c d hmap =>
    refine chars_of_pieces (.inr (.inr rfl)) fun piece hpiece => ?_
    obtain ⟨n, hn⟩ := exists_of_mapM_eq_some hmap piece hpiece
    exact chars_of_readOctet? hn
  · cases h

theorem chars_of_readHex {cs : List Char} {value n : Nat} (h : readHex value cs = some n) :
    ∀ c ∈ cs, IsAddressChar c := by
  induction cs generalizing value with
  | nil => exact List.forall_mem_nil _
  | cons c cs ih =>
    obtain ⟨d, hd, h⟩ := Option.bind_eq_some_iff.mp h
    exact List.forall_mem_cons.mpr ⟨.inl (Option.isSome_of_eq_some hd), ih h⟩

theorem chars_of_readGroup? {cs : List Char} {n : UInt16} (h : readGroup? cs = some n) :
    ∀ c ∈ cs, IsAddressChar c := by
  unfold readGroup? at h
  split at h
  · cases h
  · obtain ⟨m, hm, -⟩ := Option.map_eq_some_iff.mp h
    exact chars_of_readHex hm

theorem chars_of_readPieces? {pieces : List (List Char)} {groups : List UInt16}
    (h : readPieces? pieces = some groups) :
    ∀ piece ∈ pieces, ∀ c ∈ piece, IsAddressChar c := by
  induction pieces generalizing groups with
  | nil => exact List.forall_mem_nil _
  | cons piece rest ih =>
    cases rest with
    | nil =>
      rw [List.forall_mem_singleton]
      rw [readPieces?] at h
      split at h
      · next hdotted => exact chars_of_readDotted? hdotted
      · obtain ⟨g, hg, -⟩ := Option.map_eq_some_iff.mp h
        exact chars_of_readGroup? hg
    | cons second rest =>
      rw [readPieces?] at h
      split at h
      · next g gs hg hgs => exact List.forall_mem_cons.mpr ⟨chars_of_readGroup? hg, ih hgs⟩
      · cases h
      · exact nofun

theorem chars_of_mem_pieces {cs : List Char}
    (h : ∀ piece ∈ pieces cs, ∀ c ∈ piece, IsAddressChar c) : ∀ c ∈ cs, IsAddressChar c := by
  unfold pieces at h
  split at h
  · next hnil => exact List.isEmpty_iff.mp hnil ▸ List.forall_mem_nil _
  · exact chars_of_pieces (.inr (.inl rfl)) h

theorem eq_of_splitDouble {cs before behind : List Char}
    (h : splitDouble cs = some (before, behind)) : cs = before ++ ':' :: ':' :: behind := by
  induction cs using splitDouble.induct generalizing before with
  | case1 => cases h
  | case2 rest =>
    cases h
    rfl
  | case3 c cs hne ih =>
    rw [splitDouble] at h
    · obtain ⟨⟨front, rest⟩, hrest, heq⟩ := Option.map_eq_some_iff.mp h
      obtain ⟨rfl, rfl⟩ := Prod.mk.inj heq
      rw [ih hrest]
      rfl
    · exact hne

theorem chars_of_readGroups? {cs : List Char} {groups : List UInt16}
    (h : readGroups? cs = some groups) : ∀ c ∈ cs, IsAddressChar c := by
  unfold readGroups? at h
  split at h
  · exact chars_of_mem_pieces (chars_of_readPieces? h)
  · next before behind hsplit =>
    split at h
    · next head tail hhead htail =>
      have hcolon : IsAddressChar ':' := .inr (.inl rfl)
      have hbefore : ∀ c ∈ before, IsAddressChar c := chars_of_mem_pieces fun piece hpiece => by
        obtain ⟨n, hn⟩ := exists_of_mapM_eq_some hhead piece hpiece
        exact chars_of_readGroup? hn
      have hbehind := chars_of_mem_pieces (chars_of_readPieces? htail)
      rw [eq_of_splitDouble hsplit, List.forall_mem_append, List.forall_mem_cons,
        List.forall_mem_cons]
      exact ⟨hbefore, hcolon, hcolon, hbehind⟩
    · cases h

/-- What can be read as an address is one or more characters that may stand in one. -/
theorem chars_of_read? {t : String} {a : Address} (h : read? t = some a) :
    1 ≤ t.toList.length ∧ ∀ c ∈ t.toList, IsAddressChar c := by
  have hne : t.toList ≠ [] := by
    intro hnil
    rw [read?, hnil] at h
    cases h
  refine ⟨List.length_pos_of_ne_nil hne, ?_⟩
  unfold read? at h
  split at h
  · next hdotted => exact chars_of_readDotted? hdotted
  · split at h
    · next hgroups => exact chars_of_readGroups? hgroups
    · cases h

end Address

namespace Kind

/-- The characters of an address as its pattern gives them. -/
def addressClass : CharClass :=
  .union (.union (.union (.union (.union .none (.range 48 57)) (.range 65 70)) (.range 97 102))
    (.range 58 58)) (.range 46 46)

theorem compile?_address : Pattern.compile? addressPattern =
    some ⟨addressPattern, (Expr.rep (.chars addressClass) 1 none).whole⟩ := by
  decide +kernel

theorem contains_addressClass {c : Char} (h : Address.IsAddressChar c) :
    addressClass.contains c.toNat = true := by
  have hiff : addressClass.contains c.toNat = true ↔
      (48 ≤ c.toNat ∧ c.toNat ≤ 57) ∨ (65 ≤ c.toNat ∧ c.toNat ≤ 70) ∨
        (97 ≤ c.toNat ∧ c.toNat ≤ 102) ∨ c.toNat = 58 ∨ c.toNat = 46 := by
    simp only [addressClass, CharClass.contains, Bool.or_eq_true, Bool.and_eq_true,
      decide_eq_true_eq, Bool.false_eq_true, false_or]
    omega
  rw [hiff]
  rcases h with h | rfl | rfl
  · unfold Address.hexDigit? at h
    simp only [Bool.and_eq_true, decide_eq_true_eq] at h
    split at h
    · next hc => exact .inl hc
    · split at h
      · next hc => exact .inr (.inr (.inl hc))
      · split at h
        · next hc => exact .inr (.inl hc)
        · cases h
  · decide
  · decide

theorem address_fitsValues : address.FitsValues := by
  refine fitsValues_of_matches (e := .rep (.chars addressClass) 1 none) ⟨trivial, nofun⟩ rfl
    compile?_address fun t v ht => ?_
  have hread : ∃ a, Address.read? t = some a := by
    simp only [address, plain] at ht
    split at ht
    · next a ha => exact ⟨a, ha⟩
    · cases ht
  obtain ⟨a, ha⟩ := hread
  obtain ⟨hlength, hchars⟩ := Address.chars_of_read? ha
  exact Expr.matches_rep_chars (fun c hc => contains_addressClass (hchars c hc)) hlength _ _

end Kind

end CommandGrammar
