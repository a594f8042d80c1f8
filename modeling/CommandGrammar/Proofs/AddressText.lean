import CommandGrammar.Proofs.Numerals

/-! The text form of an address reads as the address again. An octet is written in decimal and a
group in hexadecimal, without zeros in front, so each of them is found between its separators; and
the zeros that a double colon stands for are as many as are missing of the eight groups. -/

namespace CommandGrammar

/-! ### Numerals -/

namespace Decimal

theorem isDigits_toDigits (n : Nat) : IsDigits (Nat.toDigits 10 n) :=
  ⟨Nat.toDigits_ne_nil, fun _ hc => Nat.isDigit_of_mem_toDigits (by decide) (by decide) hc⟩

theorem digitValue_concat (cs : List Char) (c : Char) :
    digitValue (cs ++ [c]) = 10 * digitValue cs + (c.toNat - 48) := by
  rw [digitValue, List.foldl_append]
  rfl

/-- The digits of a number write it. -/
theorem digitValue_toDigits (n : Nat) : digitValue (Nat.toDigits 10 n) = n := by
  induction n using Nat.strongRecOn with
  | ind n ih =>
    rw [Nat.toDigits_eq_if (by decide)]
    split
    · next hlt =>
      rw [← List.nil_append [n.digitChar], digitValue_concat,
        Nat.toNat_digitChar_sub_48_of_lt_ten hlt]
      exact Nat.zero_add n
    · have hlast : n % 10 < 10 := Nat.mod_lt n (by decide)
      rw [digitValue_concat, ih (n / 10) (by omega), Nat.toNat_digitChar_sub_48_of_lt_ten hlast]
      exact Nat.div_add_mod n 10

/-- Only the number zero has a zero in front. -/
theorem eq_zero_of_head?_toDigits {n : Nat} (h : (Nat.toDigits 10 n).head? = some '0') :
    n = 0 := by
  induction n using Nat.strongRecOn with
  | ind n ih =>
    rw [Nat.toDigits_eq_if (by decide)] at h
    split at h
    · simpa using h
    · rw [List.head?_append_of_ne_nil _ Nat.toDigits_ne_nil] at h
      have := ih (n / 10) (by omega) h
      omega

theorem readMagnitude_toDigits {bound n : Nat} (excess : NumeralError) (h : n ≤ bound) :
    readMagnitude bound excess (Nat.toDigits 10 n) = .ok n := by
  rw [readMagnitude_eq (isDigits_toDigits n), digitValue_toDigits, if_pos h]

/-- A number within the bound is read from its digits. -/
theorem readNatural_toDigits {bound n : Nat} (h : n ≤ bound) :
    readNatural bound (Nat.toDigits 10 n) = .ok n := by
  have hdigits := isDigits_toDigits n
  rw [← readMagnitude_toDigits .tooLarge h]
  generalize Nat.toDigits 10 n = cs at hdigits
  unfold readNatural
  split
  · cases hdigits.2 '+' List.mem_cons_self
  · rfl

end Decimal

namespace Address

/-! ### Version 4 -/

theorem readOctet?_toDigits (n : UInt8) : readOctet? (Nat.toDigits 10 n.toNat) = some n := by
  have hlt := n.toNat_lt
  have hlength : (Nat.toDigits 10 n.toNat).length ≤ 3 :=
    (Nat.length_toDigits_le_iff (by decide) (by decide)).mpr (by omega)
  have hzero : ¬(1 < (Nat.toDigits 10 n.toNat).length ∧
      (Nat.toDigits 10 n.toNat).head? = some '0') := by
    rintro ⟨hlong, hhead⟩
    rw [Decimal.eq_zero_of_head?_toDigits hhead] at hlong
    exact absurd hlong (by decide)
  have hform : ¬(3 < (Nat.toDigits 10 n.toNat).length ||
      (1 < (Nat.toDigits 10 n.toNat).length &&
        (Nat.toDigits 10 n.toNat).head? == some '0')) = true := by
    rw [Bool.or_eq_true, Bool.and_eq_true, decide_eq_true_eq, decide_eq_true_eq, beq_iff_eq]
    exact not_or.mpr ⟨Nat.not_lt.mpr hlength, hzero⟩
  rw [readOctet?, if_neg hform, Decimal.readMagnitude_toDigits _ (by omega)]
  dsimp only
  rw [UInt8.ofNat_toNat]

theorem point_notMem_toDigits (n : Nat) : '.' ∉ Nat.toDigits 10 n :=
  fun h => absurd ((Decimal.isDigits_toDigits n).2 '.' h) (by decide)

theorem readDotted?_dotted (a b c d : UInt8) :
    readDotted? (dotted a b c d) = some (a, b, c, d) := by
  have hpieces : (dotted a b c d).splitOn '.' =
      [a, b, c, d].map fun n => Nat.toDigits 10 n.toNat := by
    refine List.splitOn_intercalate '.' (fun piece hpiece => ?_) (List.cons_ne_nil _ _)
    obtain ⟨n, -, rfl⟩ := List.mem_map.mp hpiece
    exact point_notMem_toDigits n.toNat
  rw [readDotted?, hpieces]
  simp only [List.map_cons, List.map_nil, List.mapM_cons, List.mapM_nil, readOctet?_toDigits]
  rfl

/-- What is read as four octets is digits and points. -/
theorem digits_of_readDotted? {cs : List Char} {octets : UInt8 × UInt8 × UInt8 × UInt8}
    (h : readDotted? cs = some octets) : ∀ c ∈ cs, c.isDigit = true ∨ c = '.' := by
  intro c hc
  unfold readDotted? at h
  split at h
  · next hmap =>
    refine (mem_splitOn_or_eq hc).imp_left ?_
    rintro ⟨piece, hpiece, hmem⟩
    obtain ⟨n, hn⟩ := exists_of_mapM_eq_some hmap piece hpiece
    unfold readOctet? at hn
    split at hn
    · cases hn
    · split at hn
      · next hread =>
        exact Decimal.isDigit_of_range ((Decimal.digits_of_readMagnitude hread).2 c hmem)
      · cases hn
  · cases h

theorem readDotted?_of_colon {cs : List Char} (h : ':' ∈ cs) : readDotted? cs = none := by
  cases hread : readDotted? cs with
  | none => rfl
  | some octets => exact absurd (digits_of_readDotted? hread ':' h) (by decide)

/-- Without a point there is one number only. -/
theorem readDotted?_of_notMem {cs : List Char} (h : '.' ∉ cs) : readDotted? cs = none := by
  rw [readDotted?, List.splitOn_eq_singleton h, List.mapM_cons, List.mapM_nil]
  cases readOctet? cs <;> rfl

/-! ### Groups -/

theorem hexDigit?_digitChar : ∀ d < 16, hexDigit? d.digitChar = some d := by decide

theorem readHex_append (value : Nat) (cs ds : List Char) :
    readHex value (cs ++ ds) = (readHex value cs).bind fun n => readHex n ds := by
  induction cs generalizing value with
  | nil => rfl
  | cons c cs ih =>
    rw [List.cons_append, readHex, readHex]
    cases hexDigit? c with
    | none => rfl
    | some d => exact ih (16 * value + d)

theorem readHex_toDigits (n : Nat) : readHex 0 (Nat.toDigits 16 n) = some n := by
  have hone {d value : Nat} (hd : d < 16) :
      readHex value [d.digitChar] = some (16 * value + d) := by
    rw [readHex, hexDigit?_digitChar d hd]
    rfl
  induction n using Nat.strongRecOn with
  | ind n ih =>
    rw [Nat.toDigits_eq_if (by decide)]
    split
    · next hlt => rw [hone hlt, Nat.mul_zero, Nat.zero_add]
    · have hlast : n % 16 < 16 := Nat.mod_lt n (by decide)
      rw [readHex_append, ih (n / 16) (by omega), Option.bind_some, hone hlast, Nat.div_add_mod]

/-- The hexadecimal digits of a group. -/
def hexText (g : UInt16) : List Char := Nat.toDigits 16 g.toNat

theorem hexText_ne_nil (g : UInt16) : hexText g ≠ [] := Nat.toDigits_ne_nil

theorem readGroup?_hexText (g : UInt16) : readGroup? (hexText g) = some g := by
  have hlt := g.toNat_lt
  have hlength : (hexText g).length ≤ 4 :=
    (Nat.length_toDigits_le_iff (by decide) (by decide)).mpr (by omega)
  have hform : ¬((hexText g).isEmpty || decide (4 < (hexText g).length)) = true := by
    simpa [hexText_ne_nil] using hlength
  rw [readGroup?, if_neg hform, hexText, readHex_toDigits, Option.map_some, UInt16.ofNat_toNat]

/-- A separator is no hexadecimal digit. -/
theorem notMem_hexText {c : Char} (h : hexDigit? c = none) (g : UInt16) : c ∉ hexText g := by
  have hdigits : ∀ n, ∀ d ∈ Nat.toDigits 16 n, ∃ k < 16, d = k.digitChar := by
    intro n
    induction n using Nat.strongRecOn with
    | ind n ih =>
      rw [Nat.toDigits_eq_if (by decide)]
      split
      · next hlt => exact List.forall_mem_singleton.mpr ⟨n, hlt, rfl⟩
      · rw [List.forall_mem_append, List.forall_mem_singleton]
        exact ⟨ih (n / 16) (by omega), n % 16, Nat.mod_lt n (by decide), rfl⟩
  intro hmem
  obtain ⟨k, hk, rfl⟩ := hdigits g.toNat c hmem
  rw [hexDigit?_digitChar k hk] at h
  cases h

theorem groupsText_eq (gs : List UInt16) : groupsText gs = [':'].intercalate (gs.map hexText) := rfl

theorem groupsText_cons_cons (g g' : UInt16) (gs : List UInt16) :
    groupsText (g :: g' :: gs) = hexText g ++ ':' :: groupsText (g' :: gs) := by
  rw [groupsText_eq, groupsText_eq, List.map_cons, List.map_cons, List.intercalate_cons_cons,
    List.append_assoc]
  rfl

theorem groupsText_singleton (g : UInt16) : groupsText [g] = hexText g :=
  List.intercalate_singleton

/-- A text of groups begins with a digit. -/
theorem exists_groupsText_cons (g : UInt16) (gs : List UInt16) :
    ∃ c cs, groupsText (g :: gs) = c :: cs ∧ c ≠ ':' := by
  obtain ⟨c, cs, hcs⟩ := List.exists_cons_of_ne_nil (hexText_ne_nil g)
  have hc : c ≠ ':' := by
    rintro rfl
    exact notMem_hexText rfl g (hcs ▸ List.mem_cons_self)
  cases gs with
  | nil => exact ⟨c, cs, by rw [groupsText_singleton, hcs], hc⟩
  | cons g' gs => exact ⟨c, _, by rw [groupsText_cons_cons, hcs, List.cons_append], hc⟩

theorem pieces_groupsText (gs : List UInt16) : pieces (groupsText gs) = gs.map hexText := by
  cases gs with
  | nil => rfl
  | cons g gs =>
    obtain ⟨c, cs, hcs, -⟩ := exists_groupsText_cons g gs
    rw [pieces, hcs, if_neg (by simp), ← hcs, groupsText_eq]
    refine List.splitOn_intercalate ':' (fun piece hpiece => ?_) (List.cons_ne_nil _ _)
    obtain ⟨n, -, rfl⟩ := List.mem_map.mp hpiece
    exact notMem_hexText rfl n

theorem mapM_readGroup?_hexText (gs : List UInt16) :
    (gs.map hexText).mapM readGroup? = some gs := by
  induction gs with
  | nil => rfl
  | cons g gs ih =>
    rw [List.map_cons, List.mapM_cons, readGroup?_hexText, ih]
    rfl

theorem readPieces?_hexText (gs : List UInt16) : readPieces? (gs.map hexText) = some gs := by
  induction gs with
  | nil => rfl
  | cons g gs ih =>
    cases gs with
    | nil =>
      rw [List.map_cons, List.map_nil, readPieces?, readDotted?_of_notMem (notMem_hexText rfl g)]
      dsimp only
      rw [readGroup?_hexText]
      rfl
    | cons g' gs =>
      rw [List.map_cons] at ih
      rw [List.map_cons, List.map_cons, readPieces?, readGroup?_hexText, ih]
      exact List.cons_ne_nil _ _

/-! ### The double colon -/

theorem splitDouble_cons {c d : Char} (h : ¬(c = ':' ∧ d = ':')) (cs : List Char) :
    splitDouble (c :: d :: cs) = (splitDouble (d :: cs)).map fun p => (c :: p.1, p.2) := by
  rw [splitDouble]
  rintro rest rfl hrest
  exact h ⟨rfl, (List.cons.inj hrest).1⟩

/-- Characters that are no colons stand in front of the double colon. -/
theorem splitDouble_append {cs : List Char} (h : ':' ∉ cs) (rest : List Char) :
    splitDouble (cs ++ rest) = (splitDouble rest).map fun p => (cs ++ p.1, p.2) := by
  induction cs with
  | nil => simp
  | cons c cs ih =>
    obtain ⟨hc, hcs⟩ := not_or.mp (mt List.mem_cons.mpr h)
    rw [List.cons_append, splitDouble]
    · rw [ih hcs, Option.map_map]
      rfl
    · rintro more rfl
      exact absurd rfl hc

/-- So do groups, with single colons between them. -/
theorem splitDouble_groupsText (gs : List UInt16) (rest : List Char) :
    splitDouble (groupsText gs ++ rest) =
      (splitDouble rest).map fun p => (groupsText gs ++ p.1, p.2) := by
  induction gs with
  | nil => simp [groupsText]
  | cons g gs ih =>
    have hg : ':' ∉ hexText g := notMem_hexText rfl g
    cases gs with
    | nil => rw [groupsText_singleton, splitDouble_append hg]
    | cons g' gs =>
      obtain ⟨c, cs, hcs, hc⟩ := exists_groupsText_cons g' gs
      have hcolon : splitDouble (':' :: (groupsText (g' :: gs) ++ rest)) =
          (splitDouble (groupsText (g' :: gs) ++ rest)).map fun p => (':' :: p.1, p.2) := by
        rw [hcs, List.cons_append, splitDouble_cons fun h => hc h.2]
      rw [groupsText_cons_cons, List.append_assoc, splitDouble_append hg, List.cons_append, hcolon,
        ih, Option.map_map, Option.map_map]
      simp only [Function.comp_def, List.append_assoc, List.cons_append]

/-! ### Runs of zeros -/

theorem eq_replicate_append_of_le_leadingZeros {n : Nat} {groups : List UInt16}
    (h : n ≤ leadingZeros groups) : groups = List.replicate n 0 ++ groups.drop n := by
  induction n generalizing groups with
  | zero => rfl
  | succ n ih =>
    cases groups with
    | nil => cases h
    | cons g groups =>
      rw [leadingZeros, List.takeWhile_cons] at h
      split at h
      · next hg =>
        rw [List.replicate_succ, List.cons_append, List.drop_succ_cons,
          ← ih (Nat.le_of_succ_le_succ h), beq_iff_eq.mp hg]
      · cases h

/-- The longest run is no longer than the zeros at its place. -/
theorem longestZeros_le (groups : List UInt16) :
    (longestZeros groups).2 ≤ leadingZeros (groups.drop (longestZeros groups).1) := by
  unfold longestZeros
  generalize List.range groups.length = places
  suffices h : ∀ best : Nat × Nat, best.2 ≤ leadingZeros (groups.drop best.1) →
      (places.foldl (fun best i =>
        let n := leadingZeros (groups.drop i)
        if best.2 < n then (i, n) else best) best).2 ≤ leadingZeros (groups.drop
      (places.foldl (fun best i =>
        let n := leadingZeros (groups.drop i)
        if best.2 < n then (i, n) else best) best).1) from h (0, 0) (Nat.zero_le _)
  induction places with
  | nil => exact fun _ h => h
  | cons i places ih =>
    intro best h
    rw [List.foldl_cons]
    refine ih _ ?_
    dsimp only
    split
    · exact Nat.le_refl _
    · exact h

/-- The groups before the longest run, its zeros, and the groups behind it. -/
theorem eq_append_longestZeros (groups : List UInt16) :
    groups = groups.take (longestZeros groups).1 ++ (List.replicate (longestZeros groups).2 0 ++
      groups.drop ((longestZeros groups).1 + (longestZeros groups).2)) := by
  rw [← List.drop_drop, ← eq_replicate_append_of_le_leadingZeros (longestZeros_le groups),
    List.take_append_drop]

/-! ### Version 6 -/

theorem compressed_eq (groups : List UInt16) :
    compressed groups =
      if (longestZeros groups).2 < 2 then groupsText groups
      else groupsText (groups.take (longestZeros groups).1) ++ [':', ':'] ++
        groupsText (groups.drop ((longestZeros groups).1 + (longestZeros groups).2)) := rfl

/-- Groups with a double colon stand for the groups with zeros in its place. -/
theorem readGroups?_double {front back : List UInt16} {n : Nat}
    (h : front.length + (n + back.length) = 8) (hpos : 1 ≤ n) :
    readGroups? (groupsText front ++ [':', ':'] ++ groupsText back) =
      some (front ++ (List.replicate n 0 ++ back)) := by
  have hsplit : splitDouble (groupsText front ++ [':', ':'] ++ groupsText back) =
      some (groupsText front, groupsText back) := by
    rw [List.append_assoc, splitDouble_groupsText]
    simp [splitDouble]
  have hn : 8 - (front.length + back.length) = n := by omega
  rw [readGroups?, hsplit]
  dsimp only
  rw [pieces_groupsText, pieces_groupsText, mapM_readGroup?_hexText, readPieces?_hexText]
  dsimp only
  rw [if_pos (by omega), hn, List.append_assoc]

theorem readGroups?_compressed {groups : List UInt16} (h : groups.length = 8) :
    readGroups? (compressed groups) = some groups := by
  rw [compressed_eq]
  split
  · have hsplit := splitDouble_groupsText groups []
    rw [List.append_nil] at hsplit
    rw [readGroups?, hsplit]
    exact (congrArg readPieces? (pieces_groupsText groups)).trans (readPieces?_hexText groups)
  · next hlong =>
    have hgroups := eq_append_longestZeros groups
    have hlength := congrArg List.length hgroups
    rw [List.length_append, List.length_append, List.length_replicate, h] at hlength
    rw [readGroups?_double hlength.symm (by omega), ← hgroups]

theorem joinOctets_octets (g : UInt16) : joinOctets (g >>> 8).toUInt8 g.toUInt8 = g := by
  have hlt := g.toNat_lt
  rw [← UInt16.toNat_inj, joinOctets]
  simp [Nat.shiftRight_eq_div_pow]
  omega

/-- An embedded address of version 4 stands for the last two groups. -/
theorem readGroups?_embedded (g h : UInt16) :
    readGroups? ([':', ':', 'f', 'f', 'f', 'f', ':'] ++
      dotted (g >>> 8).toUInt8 g.toUInt8 (h >>> 8).toUInt8 h.toUInt8) =
      some [0, 0, 0, 0, 0, 0xFFFF, g, h] := by
  generalize hoctets : dotted (g >>> 8).toUInt8 g.toUInt8 (h >>> 8).toUInt8 h.toUInt8 = octets
  have hread : readDotted? octets =
      some ((g >>> 8).toUInt8, g.toUInt8, (h >>> 8).toUInt8, h.toUInt8) :=
    hoctets ▸ readDotted?_dotted _ _ _ _
  have hcolon : ':' ∉ octets := by
    intro hmem
    rw [readDotted?_of_colon hmem] at hread
    cases hread
  have hpieces : pieces ('f' :: 'f' :: 'f' :: 'f' :: ':' :: octets) =
      [['f', 'f', 'f', 'f'], octets] := by
    have hsplit : (['f', 'f', 'f', 'f'] ++ ':' :: octets).splitOn ':' =
        ['f', 'f', 'f', 'f'] :: octets.splitOn ':' :=
      List.splitOn_append_cons_self_of_not_mem (by decide) octets
    rw [List.splitOn_eq_singleton hcolon] at hsplit
    exact hsplit
  have hgroup : readGroup? ['f', 'f', 'f', 'f'] = some 0xFFFF := by decide
  have hgroups : readPieces? [['f', 'f', 'f', 'f'], octets] = some [0xFFFF, g, h] := by
    rw [readPieces?, hgroup, readPieces?, hread]
    · dsimp only
      rw [joinOctets_octets, joinOctets_octets]
    · exact List.cons_ne_nil _ _
  have hdouble : splitDouble ([':', ':', 'f', 'f', 'f', 'f', ':'] ++ octets) =
      some ([], 'f' :: 'f' :: 'f' :: 'f' :: ':' :: octets) := rfl
  rw [readGroups?, hdouble]
  dsimp only
  rw [hpieces, hgroups]
  rfl

theorem colon_mem_compressed {groups : List UInt16} (h : 2 ≤ groups.length) :
    ':' ∈ compressed groups := by
  rw [compressed_eq]
  split
  · obtain ⟨g, g', gs, rfl⟩ : ∃ g g' gs, groups = g :: g' :: gs := by
      match groups, h with
      | g :: g' :: gs, _ => exact ⟨g, g', gs, rfl⟩
    rw [groupsText_cons_cons]
    exact List.mem_append_right _ List.mem_cons_self
  · simp

/-! ### Addresses -/

theorem read?_of_groups {cs : List Char} {a b c d e f g h : UInt16} (hcolon : ':' ∈ cs)
    (hgroups : readGroups? cs = some [a, b, c, d, e, f, g, h]) :
    read? (String.ofList cs) = some (v6 a b c d e f g h) := by
  rw [read?, String.toList_ofList, readDotted?_of_colon hcolon]
  dsimp only
  rw [hgroups]

/-- The text form of an address is read as that address. -/
theorem read?_text (a : Address) : read? a.text = some a := by
  rw [text]
  cases a with
  | v4 a b c d => rw [chars, read?, String.toList_ofList, readDotted?_dotted]
  | v6 a b c d e f g h =>
    rw [chars]
    by_cases hembedded : [a, b, c, d, e, f] = [0, 0, 0, 0, 0, 0xFFFF]
    · rw [if_pos (beq_iff_eq.mpr hembedded)]
      simp only [List.cons.injEq, and_true] at hembedded
      obtain ⟨rfl, rfl, rfl, rfl, rfl, rfl⟩ := hembedded
      exact read?_of_groups List.mem_cons_self (readGroups?_embedded g h)
    · rw [if_neg (mt beq_iff_eq.mp hembedded)]
      have hcolon : ':' ∈ compressed [a, b, c, d, e, f, g, h] :=
        colon_mem_compressed (Nat.le_add_left 2 6)
      exact read?_of_groups hcolon (readGroups?_compressed rfl)

end Address

end CommandGrammar
