import CommandGrammar.Base64
import CommandGrammar.Proofs.Conversion

/-! Binary data as text. Every sequence of bytes has one text, and no other text is decoded to it:
the symbols stand in fours but for the last ones, which are filled up with equals signs, and bits
that carry no data are zero. A variable for binary data takes these texts but for the empty one. -/

namespace CommandGrammar

namespace Text

/-! ### Bytes of a text -/

theorem toList_loop_eq (bytes : ByteArray) (i : Nat) (front : List UInt8) :
    ByteArray.toList.loop bytes i front = front.reverse ++ bytes.data.toList.drop i := by
  induction i, front using ByteArray.toList.loop.induct bytes with
  | case1 i front hlt ih =>
    have hi : i < bytes.data.toList.length := hlt
    have hget : bytes.get! i = bytes.data.toList[i] := getElem!_pos bytes.data i hlt
    rw [ByteArray.toList.loop, if_pos hlt, ih, List.drop_eq_getElem_cons hi, hget,
      List.reverse_cons, List.append_assoc, List.singleton_append]
  | case2 i front hge =>
    rw [ByteArray.toList.loop, if_neg hge, List.drop_eq_nil_of_le (Nat.le_of_not_lt hge),
      List.append_nil]

theorem toList_eq_data (bytes : ByteArray) : bytes.toList = bytes.data.toList :=
  toList_loop_eq bytes 0 []

theorem toUTF8_toList_inj {s t : String} : s.toUTF8.toList = t.toUTF8.toList ↔ s = t := by
  rw [toList_eq_data, toList_eq_data, Array.toList_inj, ← ByteArray.ext_iff]
  exact String.toByteArray_inj

/-- Bytes below 128 are those of a text of as many characters. -/
theorem toUTF8_toList_ofList {bs : List UInt8} (h : ∀ b ∈ bs, b.toNat < 128) :
    (String.ofList (bs.map fun b => Char.ofNat b.toNat)).toUTF8.toList = bs := by
  have hone : ∀ n < 128, String.utf8EncodeChar (Char.ofNat n) = [UInt8.ofNat n] := by
    decide +kernel
  have hall : (bs.map fun b => Char.ofNat b.toNat).flatMap String.utf8EncodeChar = bs := by
    induction bs with
    | nil => rfl
    | cons b bs ih =>
      rw [List.forall_mem_cons] at h
      rw [List.map_cons, List.flatMap_cons, ih h.2, hone _ h.1, UInt8.ofNat_toNat,
        List.singleton_append]
  rw [toList_eq_data, String.toUTF8, String.toByteArray_ofList, List.utf8Encode,
    List.toList_data_toByteArray, hall]

end Text

namespace Base64

/-! ### Symbols -/

theorem symbol_of_lt : ∀ n < 64, sextet? (symbol n) = some n ∧ symbol n ≠ padding := by
  decide +kernel

theorem of_sextet?_ofNat : ∀ k < 256, ∀ n ∈ sextet? (UInt8.ofNat k),
    n < 64 ∧ UInt8.ofNat k = symbol n := by
  decide +kernel

/-- Each of the 64 values has one symbol. -/
theorem sextet?_eq_some_iff {b : UInt8} {n : Nat} :
    sextet? b = some n ↔ n < 64 ∧ b = symbol n := by
  constructor
  · intro h
    have hall := of_sextet?_ofNat b.toNat b.toNat_lt
    rw [UInt8.ofNat_toNat] at hall
    exact hall n h
  · rintro ⟨hn, rfl⟩
    exact (symbol_of_lt n hn).1

theorem sextets_eq_ok_iff {position : Nat} {bs : List UInt8} {ws : List Nat} :
    sextets position bs = .ok ws ↔ (∀ w ∈ ws, w < 64) ∧ bs = ws.map symbol := by
  induction bs generalizing position ws with
  | nil => cases ws <;> simp [sextets]
  | cons b bs ih =>
    have hcons : sextets position (b :: bs) = .ok ws ↔
        ∃ n, sextet? b = some n ∧ ∃ rest, sextets (position + 1) bs = .ok rest ∧
          ws = n :: rest := by
      rw [sextets]
      cases sextet? b with
      | none => simp
      | some n => simp [map_eq_ok_iff]
    rw [hcons]
    constructor
    · rintro ⟨n, hn, rest, hrest, rfl⟩
      obtain ⟨hlt, rfl⟩ := sextet?_eq_some_iff.mp hn
      obtain ⟨hall, rfl⟩ := ih.mp hrest
      exact ⟨List.forall_mem_cons.mpr ⟨hlt, hall⟩, rfl⟩
    · rintro ⟨hall, heq⟩
      obtain ⟨n, rest, rfl, rfl, rfl⟩ := List.map_eq_cons_iff.mp heq.symm
      rw [List.forall_mem_cons] at hall
      exact ⟨n, sextet?_eq_some_iff.mpr ⟨hall.1, rfl⟩, rest, ih.mpr ⟨hall.2, rfl⟩, rfl⟩

/-- Nothing but padding stands behind the symbols of the last group. -/
theorem takeWhile_symbols {ws : List Nat} (h : ∀ w ∈ ws, w < 64) (k : Nat) :
    (ws.map symbol ++ List.replicate k padding).takeWhile (· != padding) = ws.map symbol := by
  rw [List.takeWhile_append_of_pos, List.takeWhile_replicate]
  · simp
  · intro b hb
    obtain ⟨w, hw, rfl⟩ := List.mem_map.mp hb
    simpa using (symbol_of_lt w (h w hw)).2

/-- The checks of the last group, on its symbols and on what fills it up. -/
theorem decodeLast_eq_ok_iff_checks {position : Nat} {group : List UInt8} {ws : List Nat} :
    decodeLast position group = .ok ws ↔
      sextets position (group.takeWhile (· != padding)) = .ok ws ∧
        2 ≤ (group.takeWhile (· != padding)).length ∧ spareBits ws = 0 ∧ group.length % 4 = 0 ∧
        ∀ b ∈ group.drop (group.takeWhile (· != padding)).length, b = padding := by
  unfold decodeLast
  dsimp only
  generalize group.takeWhile (· != padding) = symbols
  cases sextets position symbols with
  | error e => simp [bind, Except.bind]
  | ok values =>
    simp only [bind, Except.bind, ite_error_eq_ok_iff, Except.ok.injEq]
    by_cases hlength : symbols.length < 2
    · exact iff_of_false (fun h => h.2.1 hlength) fun h => Nat.not_lt.mpr h.2.1 hlength
    · rw [decide_eq_false hlength, Bool.false_or]
      generalize group.drop symbols.length = filling
      have hfilling : ¬(!filling.isEmpty && filling.any (· != padding)) = true ↔
          ∀ b ∈ filling, b = padding := by
        cases filling <;> simp
      rw [hfilling]
      constructor
      · rintro ⟨hpadding, -, hfour, hspare, rfl⟩
        exact ⟨rfl, Nat.le_of_not_lt hlength, not_not.mp hspare, not_not.mp hfour, hpadding⟩
      · rintro ⟨rfl, -, hspare, hfour, hpadding⟩
        exact ⟨hpadding, hlength, not_not.mpr hfour, not_not.mpr hspare, rfl⟩

/-- The last group is filled up to a multiple of four, and has at least two symbols and no bits to
spare. -/
theorem decodeLast_eq_ok_iff {position : Nat} {group : List UInt8} {ws : List Nat} :
    decodeLast position group = .ok ws ↔ (∀ w ∈ ws, w < 64) ∧ 2 ≤ ws.length ∧ spareBits ws = 0 ∧
      group.length % 4 = 0 ∧ ∃ k, group = ws.map symbol ++ List.replicate k padding := by
  rw [decodeLast_eq_ok_iff_checks]
  constructor
  · rintro ⟨hvalues, hlength, hspare, hfour, hfilling⟩
    obtain ⟨hlt, hsymbols⟩ := sextets_eq_ok_iff.mp hvalues
    have hgroup := List.prefix_iff_eq_append.mp (List.takeWhile_prefix (l := group) (· != padding))
    rw [hsymbols] at hlength hfilling hgroup
    rw [List.length_map] at hlength
    rw [List.eq_replicate_iff.mpr ⟨rfl, hfilling⟩] at hgroup
    exact ⟨hlt, hlength, hspare, hfour, _, hgroup.symm⟩
  · rintro ⟨hlt, hlength, hspare, hfour, k, rfl⟩
    rw [takeWhile_symbols hlt, List.drop_left' rfl, List.length_map]
    exact ⟨sextets_eq_ok_iff.mpr ⟨hlt, rfl⟩, hlength, hspare, hfour,
      fun b hb => List.eq_of_mem_replicate hb⟩

/-! ### Groups -/

/-- Values of six bits that can be written: fours of them, and in the last group two at least, with
no bits to spare. -/
structure Groups (fours last : List Nat) : Prop where
  small : ∀ w ∈ fours ++ last, w < 64
  whole : fours.length % 4 = 0
  least : 2 ≤ last.length
  most : last.length ≤ 4
  spare : spareBits last = 0

/-- The symbols of groups, filled up. -/
def written (fours last : List Nat) : List UInt8 :=
  (fours ++ last).map symbol ++ List.replicate (4 - last.length) padding

theorem length_written {fours last : List Nat} (h : Groups fours last) :
    (written fours last).length = fours.length + 4 := by
  have := h.most
  rw [written, List.length_append, List.length_map, List.length_append, List.length_replicate]
  omega

/-- The number of bytes in front of the last group. -/
def lastStart (text : List UInt8) : Nat :=
  text.length - if text.length % 4 = 0 then 4 else text.length % 4

theorem lastStart_written {fours last : List Nat} (h : Groups fours last) :
    lastStart (written fours last) = fours.length := by
  have := h.whole
  rw [lastStart, length_written h, if_pos (by omega), Nat.add_sub_cancel]

/-- The symbols in front of the last group are decoded one by one, and a lone one behind fours is
never the end of a text. -/
theorem decode_eq_ok_iff_parts {text bs : List UInt8} (h : text ≠ []) :
    decode text = .ok bs ↔ ∃ fours last,
      sextets 0 (text.take (lastStart text)) = .ok fours ∧
      decodeLast (lastStart text) (text.drop (lastStart text)) = .ok last ∧
      bs = joinSextets (fours ++ last) := by
  obtain ⟨b, hb⟩ := Option.ne_none_iff_exists'.mp (mt List.getLast?_eq_none_iff.mp h)
  have hstart : text.length - (if text.length % 4 = 0 then 4 else text.length % 4) =
      lastStart text := rfl
  unfold decode
  rw [hb]
  dsimp only
  rw [ite_error_eq_ok_iff, hstart]
  simp only [bind_ok_iff, Except.ok.injEq]
  constructor
  · rintro ⟨-, fours, hfours, last, hlast, hjoined⟩
    exact ⟨fours, last, hfours, hlast, hjoined.symm⟩
  · rintro ⟨fours, last, hfours, hlast, hjoined⟩
    -- A lone symbol cannot fill the last group up, so looking at it first refuses nothing more.
    refine ⟨fun hodd => ?_, fours, hfours, last, hlast, hjoined.symm⟩
    obtain ⟨-, -, -, hwhole, -⟩ := decodeLast_eq_ok_iff.mp hlast
    rw [Bool.and_eq_true, Bool.and_eq_true, decide_eq_true_eq] at hodd
    have hpos := List.length_pos_of_ne_nil h
    rw [List.length_drop, lastStart, hodd.1.1, if_neg Nat.one_ne_zero] at hwhole
    omega

/-- What is decoded is what groups are written as. -/
theorem decode_eq_ok_iff_groups {text bs : List UInt8} (h : text ≠ []) :
    decode text = .ok bs ↔ ∃ fours last, Groups fours last ∧ text = written fours last ∧
      bs = joinSextets (fours ++ last) := by
  rw [decode_eq_ok_iff_parts h]
  have hpos := List.length_pos_of_ne_nil h
  constructor
  · rintro ⟨fours, last, hfours, hlast, rfl⟩
    obtain ⟨hsmall, htake⟩ := sextets_eq_ok_iff.mp hfours
    obtain ⟨hlt, hleast, hspare, hwhole, k, hdrop⟩ := decodeLast_eq_ok_iff.mp hlast
    have htext := List.take_append_drop (lastStart text) text
    rw [List.length_drop] at hwhole
    have hfour : text.length % 4 = 0 := by
      unfold lastStart at hwhole
      split at hwhole <;> omega
    have hstart : lastStart text = text.length - 4 := by rw [lastStart, if_pos hfour]
    have hlength := congrArg List.length htake
    have hrest := congrArg List.length hdrop
    rw [List.length_take, List.length_map, hstart] at hlength
    rw [List.length_drop, List.length_append, List.length_map, List.length_replicate, hstart]
      at hrest
    obtain rfl : k = 4 - last.length := by omega
    refine ⟨fours, last, ⟨List.forall_mem_append.mpr ⟨hsmall, hlt⟩, by omega, hleast, by omega,
      hspare⟩, ?_, rfl⟩
    rw [written, List.map_append, List.append_assoc, ← htake, ← hdrop, htext]
  · rintro ⟨fours, last, hgroups, rfl, rfl⟩
    obtain ⟨hsmall, hlt⟩ := List.forall_mem_append.mp hgroups.small
    have hlength : fours.length = (fours.map symbol).length := (List.length_map symbol).symm
    rw [lastStart_written hgroups, written, List.map_append, List.append_assoc, hlength,
      List.take_left' rfl, List.drop_left' rfl]
    refine ⟨fours, last, sextets_eq_ok_iff.mpr ⟨hsmall, rfl⟩, decodeLast_eq_ok_iff.mpr
      ⟨hlt, hgroups.least, hgroups.spare, ?_, _, rfl⟩, rfl⟩
    have := hgroups.most
    rw [List.length_append, List.length_map, List.length_replicate]
    omega

section

variable {w x y z : Nat}

/-- Four values are joined to three bytes, which are written as the four, … -/
theorem encode_four (hw : w < 64) (hx : x < 64) (hy : y < 64) (hz : z < 64) (rest : List UInt8) :
    encode (UInt8.ofNat (w * 4 + x / 16) :: UInt8.ofNat (x % 16 * 16 + y / 4) ::
      UInt8.ofNat (y % 4 * 64 + z) :: rest) =
      symbol w :: symbol x :: symbol y :: symbol z :: encode rest := by
  have hfirst : (w * 4 + x / 16) / 4 = w := by omega
  have hsecond : (w * 4 + x / 16) % 4 * 16 + (x % 16 * 16 + y / 4) / 16 = x := by omega
  have hthird : (x % 16 * 16 + y / 4) % 16 * 4 + (y % 4 * 64 + z) / 64 = y := by omega
  have hfourth : (y % 4 * 64 + z) % 64 = z := by omega
  have hsize : UInt8.size = 256 := rfl
  rw [encode, UInt8.toNat_ofNat_of_lt' (by omega), UInt8.toNat_ofNat_of_lt' (by omega),
    UInt8.toNat_ofNat_of_lt' (by omega), hfirst, hsecond, hthird, hfourth]

/-- … three values to two bytes, … -/
theorem encode_three (hw : w < 64) (hx : x < 64) (hy : y < 64) (hspare : y % 4 = 0) :
    encode [UInt8.ofNat (w * 4 + x / 16), UInt8.ofNat (x % 16 * 16 + y / 4)] =
      [symbol w, symbol x, symbol y, padding] := by
  have hfirst : (w * 4 + x / 16) / 4 = w := by omega
  have hsecond : (w * 4 + x / 16) % 4 * 16 + (x % 16 * 16 + y / 4) / 16 = x := by omega
  have hthird : (x % 16 * 16 + y / 4) % 16 * 4 = y := by omega
  have hsize : UInt8.size = 256 := rfl
  rw [encode, UInt8.toNat_ofNat_of_lt' (by omega), UInt8.toNat_ofNat_of_lt' (by omega), hfirst,
    hsecond, hthird]

/-- … and two values to one byte. -/
theorem encode_two (hw : w < 64) (hx : x < 64) (hspare : x % 16 = 0) :
    encode [UInt8.ofNat (w * 4 + x / 16)] = [symbol w, symbol x, padding, padding] := by
  have hfirst : (w * 4 + x / 16) / 4 = w := by omega
  have hsecond : (w * 4 + x / 16) % 4 * 16 = x := by omega
  have hsize : UInt8.size = 256 := rfl
  rw [encode, UInt8.toNat_ofNat_of_lt' (by omega), hfirst, hsecond]

end

theorem Groups.tail {w x y z : Nat} {fours last : List Nat}
    (h : Groups (w :: x :: y :: z :: fours) last) : Groups fours last where
  small v hv := h.small v (by simp [List.mem_append.mp hv])
  whole := by
    have := h.whole
    simp only [List.length_cons] at this
    omega
  least := h.least
  most := h.most
  spare := h.spare

theorem Groups.cons {w x y z : Nat} {fours last : List Nat} (h : Groups fours last)
    (hsmall : ∀ v ∈ [w, x, y, z], v < 64) : Groups (w :: x :: y :: z :: fours) last where
  small := by
    change ∀ v ∈ [w, x, y, z] ++ (fours ++ last), v < 64
    exact List.forall_mem_append.mpr ⟨hsmall, h.small⟩
  whole := by
    have := h.whole
    simp only [List.length_cons]
    omega
  least := h.least
  most := h.most
  spare := h.spare

/-- A last group is written as it is filled up. -/
theorem encode_last {last : List Nat} (h : Groups [] last) :
    encode (joinSextets last) = written [] last := by
  have hsmall := h.small
  have hspare := h.spare
  match last, h.least, h.most with
  | [w, x], _, _ =>
    simp only [List.nil_append, List.forall_mem_cons] at hsmall
    exact encode_two hsmall.1 hsmall.2.1 hspare
  | [w, x, y], _, _ =>
    simp only [List.nil_append, List.forall_mem_cons] at hsmall
    exact encode_three hsmall.1 hsmall.2.1 hsmall.2.2.1 hspare
  | [w, x, y, z], _, _ =>
    simp only [List.nil_append, List.forall_mem_cons] at hsmall
    exact encode_four hsmall.1 hsmall.2.1 hsmall.2.2.1 hsmall.2.2.2.1 []

/-- Bytes are written as the groups that are joined to them. -/
theorem encode_joinSextets {last : List Nat} : ∀ {fours : List Nat}, Groups fours last →
    encode (joinSextets (fours ++ last)) = written fours last
  | [], h => encode_last h
  | [_], h | [_, _], h | [_, _, _], h => nomatch h.whole
  | w :: x :: y :: z :: fours, h => by
    have hsmall := h.small
    simp only [List.cons_append, List.forall_mem_cons] at hsmall
    obtain ⟨hw, hx, hy, hz, -⟩ := hsmall
    simp only [List.cons_append, joinSextets]
    rw [encode_four hw hx hy hz, encode_joinSextets h.tail]
    rfl

/-- All bytes but none are joined of groups. -/
theorem exists_groups {bs : List UInt8} (h : bs ≠ []) :
    ∃ fours last, Groups fours last ∧ joinSextets (fours ++ last) = bs := by
  induction bs using encode.induct with
  | case1 => exact absurd rfl h
  | case2 a =>
    have ha := a.toNat_lt
    have hfirst : a.toNat / 4 * 4 + a.toNat % 4 * 16 / 16 = a.toNat := by omega
    refine ⟨[], [a.toNat / 4, a.toNat % 4 * 16],
      ⟨?_, rfl, le_rfl, Nat.le_add_left 2 2, Nat.mul_mod_left _ _⟩, ?_⟩
    · simp only [List.nil_append, List.forall_mem_cons]
      exact ⟨by omega, by omega, List.forall_mem_nil _⟩
    · rw [List.nil_append, joinSextets, hfirst, UInt8.ofNat_toNat]
  | case3 a b =>
    have ha := a.toNat_lt
    have hb := b.toNat_lt
    have hfirst : a.toNat / 4 * 4 + (a.toNat % 4 * 16 + b.toNat / 16) / 16 = a.toNat := by omega
    have hsecond :
        (a.toNat % 4 * 16 + b.toNat / 16) % 16 * 16 + b.toNat % 16 * 4 / 4 = b.toNat := by
      omega
    refine ⟨[], [a.toNat / 4, a.toNat % 4 * 16 + b.toNat / 16, b.toNat % 16 * 4],
      ⟨?_, rfl, Nat.le_succ 2, Nat.le_succ 3, Nat.mul_mod_left _ _⟩, ?_⟩
    · simp only [List.nil_append, List.forall_mem_cons]
      exact ⟨by omega, by omega, by omega, List.forall_mem_nil _⟩
    · rw [List.nil_append, joinSextets, hfirst, hsecond, UInt8.ofNat_toNat, UInt8.ofNat_toNat]
  | case4 a b c rest ih =>
    have ha := a.toNat_lt
    have hb := b.toNat_lt
    have hc := c.toNat_lt
    have hfirst : a.toNat / 4 * 4 + (a.toNat % 4 * 16 + b.toNat / 16) / 16 = a.toNat := by omega
    have hsecond : (a.toNat % 4 * 16 + b.toNat / 16) % 16 * 16 +
        (b.toNat % 16 * 4 + c.toNat / 64) / 4 = b.toNat := by omega
    have hthird : (b.toNat % 16 * 4 + c.toNat / 64) % 4 * 64 + c.toNat % 64 = c.toNat := by omega
    have hsmall : ∀ w ∈ [a.toNat / 4, a.toNat % 4 * 16 + b.toNat / 16,
        b.toNat % 16 * 4 + c.toNat / 64, c.toNat % 64], w < 64 := by
      simp only [List.forall_mem_cons]
      exact ⟨by omega, by omega, by omega, by omega, List.forall_mem_nil _⟩
    by_cases hrest : rest = []
    · subst hrest
      refine ⟨[], _, ⟨hsmall, rfl, Nat.le_add_left 2 2, le_rfl, rfl⟩, ?_⟩
      rw [List.nil_append, joinSextets, hfirst, hsecond, hthird, UInt8.ofNat_toNat,
        UInt8.ofNat_toNat, UInt8.ofNat_toNat]
      rfl
    · obtain ⟨fours, last, hgroups, rfl⟩ := ih hrest
      refine ⟨_ :: _ :: _ :: _ :: fours, last, hgroups.cons hsmall, ?_⟩
      rw [List.cons_append, List.cons_append, List.cons_append, List.cons_append, joinSextets,
        hfirst, hsecond, hthird, UInt8.ofNat_toNat, UInt8.ofNat_toNat, UInt8.ofNat_toNat]

/-- Every text that is decoded is the text of the bytes that it is decoded to. -/
theorem decode_eq_ok_iff {text bs : List UInt8} : decode text = .ok bs ↔ text = encode bs := by
  by_cases htext : text = []
  · subst htext
    cases bs using encode.induct with
    | case1 => exact iff_of_true rfl rfl
    | _ => exact iff_of_false nofun nofun
  rw [decode_eq_ok_iff_groups htext]
  constructor
  · rintro ⟨fours, last, hgroups, rfl, rfl⟩
    exact (encode_joinSextets hgroups).symm
  · rintro rfl
    have hne : bs ≠ [] := by
      rintro rfl
      exact htext rfl
    obtain ⟨fours, last, hgroups, rfl⟩ := exists_groups hne
    exact ⟨fours, last, hgroups, encode_joinSextets hgroups, rfl⟩

/-! ### Texts -/

/-- The text of some bytes. -/
def text (bs : List UInt8) : String :=
  String.ofList ((encode bs).map fun b => Char.ofNat b.toNat)

theorem symbol_lt : ∀ n < 64, (symbol n).toNat < 128 := by decide +kernel

theorem lt_of_mem_encode {bs : List UInt8} : ∀ b ∈ encode bs, b.toNat < 128 := by
  by_cases h : bs = []
  · subst h
    exact List.forall_mem_nil _
  obtain ⟨fours, last, hgroups, rfl⟩ := exists_groups h
  rw [encode_joinSextets hgroups, written, List.forall_mem_append, List.forall_mem_map]
  refine ⟨fun w hw => symbol_lt w (hgroups.small w hw), fun b hb => ?_⟩
  rw [List.eq_of_mem_replicate hb]
  decide

/-- Every text whose bytes are decoded is the text of the bytes that they are decoded to. -/
theorem decode_toUTF8_eq_ok_iff {t : String} {bs : List UInt8} :
    decode t.toUTF8.toList = .ok bs ↔ t = text bs := by
  have hbytes : (text bs).toUTF8.toList = encode bs :=
    Text.toUTF8_toList_ofList lt_of_mem_encode
  rw [decode_eq_ok_iff, ← hbytes, Text.toUTF8_toList_inj]

/-- The character for six bits. -/
def letter (n : Nat) : Char := Char.ofNat (symbol n).toNat

theorem toList_text {fours last : List Nat} (h : Groups fours last) :
    (text (joinSextets (fours ++ last))).toList =
      fours.map letter ++ (last.map letter ++ List.replicate (4 - last.length) '=') := by
  rw [text, String.toList_ofList, encode_joinSextets h, written, List.map_append, List.map_append,
    List.map_append, List.map_map, List.map_map, List.map_replicate, List.append_assoc]
  rfl

end Base64

namespace Kind

/-! ### The pattern -/

/-- A letter, a digit, a plus sign or a slash. -/
def symbolClass : CharClass :=
  .union (.union (.union (.union (.union .none (.range 65 90)) (.range 97 122)) (.range 48 57))
    (.range 43 43)) (.range 47 47)

/-- The expression of so many symbols. -/
def symbolsExpr (n : Nat) : Expr := .rep (.chars symbolClass) n (some n)

/-- The expression of an equals sign. -/
def paddingExpr : Expr := .chars (.range 61 61)

/-- The expression of a last group with two symbols. -/
def twoExpr : Expr := .cat (symbolsExpr 2) (.cat paddingExpr paddingExpr)

/-- The expression of a last group with three symbols. -/
def threeExpr : Expr := .cat (symbolsExpr 3) paddingExpr

/-- The expression of binary data: a lone last group, or groups of four symbols that one of them
may follow. -/
def base64Expr : Expr :=
  .alt twoExpr (.alt threeExpr
    (.cat (.rep (symbolsExpr 4) 1 none) (.rep (.alt twoExpr threeExpr) 0 (some 1))))

theorem bounded_base64Expr : base64Expr.Bounded := by
  simp [base64Expr, twoExpr, threeExpr, symbolsExpr, paddingExpr, Expr.Bounded]

theorem compile?_base64 : base64.pattern.bind Pattern.compile? =
    base64.pattern.map fun source => ⟨source, base64Expr.whole⟩ := by
  decide +kernel

theorem contains_letter : ∀ n < 64, symbolClass.contains (Base64.letter n).toNat = true := by
  decide +kernel

theorem matches_symbols {n : Nat} {ws : List Nat} (h : ∀ w ∈ ws, w < 64) (hlength : ws.length = n)
    (before behind : Option Char) :
    (symbolsExpr n).Matches before (ws.map Base64.letter) behind := by
  have hall : ∀ c ∈ ws.map Base64.letter, symbolClass.contains c.toNat = true :=
    List.forall_mem_map.mpr fun w hw => contains_letter w (h w hw)
  have hrounds := Expr.rounds_chars hall before behind
  rw [List.length_map, hlength] at hrounds
  exact ⟨n, Nat.le_refl n, fun m hm => Nat.le_of_eq (Option.some.inj hm), hrounds⟩

/-- Fours of symbols are as many rounds of the expression of four. -/
theorem rounds_fours {n : Nat} {ws : List Nat} (h : ∀ w ∈ ws, w < 64) (hlength : ws.length = 4 * n)
    (before behind : Option Char) :
    Expr.Rounds (symbolsExpr 4).Matches n before (ws.map Base64.letter) behind := by
  induction n generalizing ws before with
  | zero =>
    rw [List.eq_nil_of_length_eq_zero hlength]
    exact .none
  | succ n ih =>
    have hfirst : (ws.take 4).length = 4 := by
      rw [List.length_take]
      omega
    have hrest : (ws.drop 4).length = 4 * n := by
      rw [List.length_drop]
      omega
    rw [← List.take_append_drop 4 ws, List.map_append]
    exact .more (matches_symbols (fun w hw => h w (List.mem_of_mem_take hw)) hfirst _ _)
      (ih (fun w hw => h w (List.mem_of_mem_drop hw)) hrest _)

theorem matches_fours {ws : List Nat} (h : ∀ w ∈ ws, w < 64) (hwhole : ws.length % 4 = 0)
    (hne : ws ≠ []) (before behind : Option Char) :
    (Expr.rep (symbolsExpr 4) 1 none).Matches before (ws.map Base64.letter) behind := by
  have hpos := List.length_pos_of_ne_nil hne
  exact ⟨ws.length / 4, by omega, nofun, rounds_fours h (by omega) before behind⟩

/-- A last group with padding matches one of the two expressions for it. -/
theorem matches_padded {last : List Nat} (h : ∀ w ∈ last, w < 64) (hleast : 2 ≤ last.length)
    (hmost : last.length < 4) (before behind : Option Char) :
    (Expr.alt twoExpr threeExpr).Matches before
      (last.map Base64.letter ++ List.replicate (4 - last.length) '=') behind := by
  have hpadding (before behind : Option Char) : paddingExpr.Matches before ['='] behind :=
    ⟨'=', rfl, by decide⟩
  obtain htwo | hthree : last.length = 2 ∨ last.length = 3 := by omega
  · rw [htwo]
    exact .inl ⟨_, ['=', '='], rfl, matches_symbols h htwo _ _,
      ['='], ['='], rfl, hpadding _ _, hpadding _ _⟩
  · rw [hthree]
    exact .inr ⟨_, ['='], rfl, matches_symbols h hthree _ _, hpadding _ _⟩

/-- The characters of groups match the pattern. -/
theorem matches_base64 {fours last : List Nat} (h : Base64.Groups fours last) :
    base64Expr.Matches none (fours.map Base64.letter ++
      (last.map Base64.letter ++ List.replicate (4 - last.length) '=')) none := by
  obtain ⟨hfours, hlast⟩ := List.forall_mem_append.mp h.small
  by_cases hfull : last.length = 4
  -- A full last group is one more of the fours, and nothing follows them.
  · have hne : fours ++ last ≠ [] := by
      intro hnil
      rw [(List.append_eq_nil_iff.mp hnil).2] at hfull
      cases hfull
    have hwhole : (fours ++ last).length % 4 = 0 := by
      have := h.whole
      rw [List.length_append]
      omega
    rw [hfull, Nat.sub_self, List.replicate_zero, List.append_nil, ← List.map_append]
    exact .inr (.inr ⟨_, [], (List.append_nil _).symm, matches_fours h.small hwhole hne _ _,
      0, Nat.le_refl 0, fun _ _ => Nat.zero_le _, .none⟩)
  · have hpadded := matches_padded hlast h.least (Nat.lt_of_le_of_ne h.most hfull)
    by_cases hnil : fours = []
    · subst hnil
      rcases hpadded none none with htwo | hthree
      · exact .inl htwo
      · exact .inr (.inl hthree)
    · have hone : Expr.Rounds (Expr.alt twoExpr threeExpr).Matches 1
          ((fours.map Base64.letter).getLast?.or none)
          (last.map Base64.letter ++ List.replicate (4 - last.length) '=' ++ []) none :=
        .more (hpadded _ _) .none
      rw [List.append_nil] at hone
      exact .inr (.inr ⟨_, _, rfl, matches_fours hfours h.whole hnil _ _,
        1, Nat.zero_le 1, fun m hm => Nat.le_of_eq (Option.some.inj hm), hone⟩)

/-- The empty text does not match. -/
theorem not_matches_base64_nil : ¬base64Expr.Matches none [] none := by
  rw [← Expr.nullable_iff bounded_base64Expr]
  decide

theorem parse_base64 {t : String} {v : Value} :
    base64.parse t = .ok v ↔ ∃ bs, t = Base64.text bs ∧ v = .bytes bs := by
  simp only [base64, plain, ← Base64.decode_toUTF8_eq_ok_iff]
  cases Base64.decode t.toUTF8.toList with
  | ok bs => simp [eq_comm]
  | error e => simp [refuseWith]

/-- A variable for binary data takes the texts of all bytes but none, and no other token. -/
theorem base64_takes_texts (name t : String) (v : Value) :
    base64.convert? name t = some v ↔ ∃ bs, bs ≠ [] ∧ t = Base64.text bs ∧ v = .bytes bs := by
  obtain ⟨source, hsource⟩ : ∃ source, base64.pattern = some source := ⟨_, rfl⟩
  have hcompile := compile?_base64
  rw [hsource, Option.bind_some, Option.map_some] at hcompile
  rw [convert?_eq_some_iff bounded_base64Expr hsource hcompile, parse_base64]
  constructor
  · rintro ⟨hmatches, bs, rfl, rfl⟩
    refine ⟨bs, ?_, rfl, rfl⟩
    rintro rfl
    exact not_matches_base64_nil hmatches
  · rintro ⟨bs, hne, rfl, rfl⟩
    obtain ⟨fours, last, hgroups, rfl⟩ := Base64.exists_groups hne
    refine ⟨?_, _, rfl, rfl⟩
    rw [Base64.toList_text hgroups]
    exact matches_base64 hgroups

/-- Texts of one byte, of two and of three. -/
example : Base64.text [102] = "Zg==" ∧ Base64.text [102, 111] = "Zm8=" ∧
    Base64.text [102, 111, 111] = "Zm9v" := by decide +kernel

end Kind

end CommandGrammar
