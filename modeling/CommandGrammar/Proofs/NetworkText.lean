import CommandGrammar.Proofs.AddressText

/-! Networks as tokens. A variable for networks reads the text form of every network as that
network, and the text of an address alone as the network of that address only. Whatever else it has
a value for, the number of leading bits never exceeds the bits of the address. -/

namespace CommandGrammar

namespace Kind

/-! ### The address and the number of bits -/

theorem splitLength_of_notMem {t : String} (h : '/' ∉ t.toList) : splitLength t = (t, none) := by
  have hhead : t.toList.takeWhile (· != '/') = t.toList := by
    rw [List.takeWhile_eq_self_iff]
    intro c hc
    rw [bne_iff_ne]
    rintro rfl
    exact h hc
  rw [splitLength, hhead, List.drop_length]

/-- A text is split at the first slash. -/
theorem splitLength_append {head : String} (h : '/' ∉ head.toList) (rest : String) :
    splitLength (head ++ "/" ++ rest) = (head, some rest.toList) := by
  have htext : (head ++ "/" ++ rest).toList = head.toList ++ '/' :: rest.toList := by
    rw [String.append_assoc, String.toList_append, String.toList_append]
    rfl
  have hhead : (head ++ "/" ++ rest).toList.takeWhile (· != '/') = head.toList := by
    rw [htext, List.takeWhile_append_of_pos, List.takeWhile_cons_of_neg (by simp), List.append_nil]
    intro c hc
    rw [bne_iff_ne]
    rintro rfl
    exact h hc
  rw [splitLength, hhead, htext, List.drop_left, String.ofList_toList]

/-- An address stands in front of the slash, and behind it a number that is not too large. -/
theorem parse_network {t : String} {v : Value} :
    network.parse t = .ok v ↔ ∃ a, Address.read? (splitLength t).1 = some a ∧
      ((splitLength t).2 = none ∧ v = .network ⟨a, a.bits⟩ ∨
        ∃ digits n, (splitLength t).2 = some digits ∧ Decimal.readNatural 255 digits = .ok n ∧
          n ≤ a.bits ∧ v = .network ⟨a, n⟩) := by
  simp only [network, plain, refuse, refuseWith]
  generalize splitLength t = parts
  obtain ⟨head, length⟩ := parts
  cases Address.read? head with
  | none => simp
  | some a =>
    cases length with
    | none => simp [@eq_comm _ v]
    | some digits =>
      cases hread : Decimal.readNatural 255 digits with
      | error e => simp [hread]
      | ok n => by_cases hn : n ≤ a.bits <;> simp [hread, hn, @eq_comm _ v]

/-- The number of bits is never too large for the address. -/
theorem length_le_of_parse_network {t : String} {v : Value} (h : network.parse t = .ok v) :
    ∃ n : Network, v = .network n ∧ n.length ≤ n.address.bits := by
  obtain ⟨a, -, ⟨-, rfl⟩ | ⟨digits, n, -, -, hn, rfl⟩⟩ := parse_network.mp h
  · exact ⟨⟨a, a.bits⟩, rfl, Nat.le_refl _⟩
  · exact ⟨⟨a, n⟩, rfl, hn⟩

/-! ### The pattern -/

/-- The expression of the number of bits, `(?:/\d{1,3})?`. -/
def lengthExpr : Expr :=
  .rep (.cat (.chars (.single '/')) (.rep (.chars (.table Text.decimalDigitRanges)) 1 (some 3)))
    0 (some 1)

/-- The expression of a network. -/
def networkExpr : Expr := .cat (.rep (.chars addressClass) 1 none) lengthExpr

theorem bounded_networkExpr : networkExpr.Bounded := by
  simp [networkExpr, lengthExpr, Expr.Bounded]

theorem compile?_network : network.pattern.bind Pattern.compile? =
    network.pattern.map fun source => ⟨source, networkExpr.whole⟩ := by
  decide +kernel

theorem convert?_network {name t : String} {v : Value} :
    network.convert? name t = some v ↔
      networkExpr.Matches none t.toList none ∧ network.parse t = .ok v := by
  obtain ⟨source, hsource⟩ : ∃ source, network.pattern = some source := ⟨_, rfl⟩
  have hcompile := compile?_network
  rw [hsource, Option.bind_some, Option.map_some] at hcompile
  exact convert?_eq_some_iff bounded_networkExpr hsource hcompile

/-- An address in front of what the number of bits may be matches the pattern. -/
theorem matches_network {cs ds : List Char} (hne : 1 ≤ cs.length)
    (hcs : ∀ c ∈ cs, Address.IsAddressChar c)
    (hds : ∀ before behind, lengthExpr.Matches before ds behind) :
    networkExpr.Matches none (cs ++ ds) none :=
  ⟨cs, ds, rfl, Expr.matches_rep_chars (fun c hc => contains_addressClass (hcs c hc)) hne _ _,
    hds _ _⟩

theorem matches_length_nil (before behind : Option Char) : lengthExpr.Matches before [] behind :=
  ⟨0, Nat.le_refl 0, fun _ _ => Nat.zero_le _, .none⟩

theorem matches_length_digits {cs : List Char} (hne : 1 ≤ cs.length) (hle : cs.length ≤ 3)
    (hdigits : ∀ c ∈ cs, c.isDigit = true) (before behind : Option Char) :
    lengthExpr.Matches before ('/' :: cs) behind := by
  have hclass : ∀ c ∈ cs, (CharClass.table Text.decimalDigitRanges).contains c.toNat = true := by
    have hall : ∀ n < 58, 48 ≤ n → Text.decimalDigitRanges.contains n = true := by decide +kernel
    intro c hc
    have hrange := Char.isDigit_iff_toNat.mp (hdigits c hc)
    exact hall c.toNat (Nat.lt_succ_of_le hrange.2) hrange.1
  have hround (before behind : Option Char) :
      (Expr.cat (.chars (.single '/'))
        (.rep (.chars (.table Text.decimalDigitRanges)) 1 (some 3))).Matches before
        ('/' :: cs) behind :=
    ⟨['/'], cs, rfl, Expr.matches_single.mpr rfl, cs.length, hne,
      fun m hm => Option.some.inj hm ▸ hle, Expr.rounds_chars hclass _ _⟩
  have hone := Expr.Rounds.more (v := []) (hround before behind) .none
  rw [List.append_nil] at hone
  exact ⟨1, Nat.zero_le 1, fun m hm => Nat.le_of_eq (Option.some.inj hm), hone⟩

/-! ### Text forms -/

theorem slash_notMem_text (a : Address) : '/' ∉ a.text.toList := by
  intro hmem
  have hslash := (Address.chars_of_read? (Address.read?_text a)).2 '/' hmem
  exact absurd hslash (by simp [Address.IsAddressChar, Address.hexDigit?])

theorem bits_le (a : Address) : a.bits ≤ 128 := by
  cases a with
  | v4 => exact Nat.le_of_ble_eq_true rfl
  | v6 => exact Nat.le_refl 128

theorem convert?_text_network (name : String) {n : Network} (h : n.length ≤ n.address.bits) :
    network.convert? name n.text = some (.network n) := by
  have hbits := bits_le n.address
  obtain ⟨hne, hchars⟩ := Address.chars_of_read? (Address.read?_text n.address)
  have hdigits := Decimal.isDigits_toDigits n.length
  have hsplit := splitLength_append (slash_notMem_text n.address) (toString n.length)
  have htext : n.text.toList = n.address.text.toList ++ '/' :: Nat.toDigits 10 n.length := by
    rw [Network.text, String.append_assoc, String.toList_append, String.toList_append,
      Nat.toString_eq_repr, Nat.toList_repr]
    rfl
  rw [convert?_network, parse_network, htext, Network.text, hsplit, Nat.toString_eq_repr,
    Nat.toList_repr]
  refine ⟨matches_network hne hchars (matches_length_digits (List.length_pos_of_ne_nil hdigits.1)
    ?_ hdigits.2), n.address, Address.read?_text n.address,
    .inr ⟨_, n.length, rfl, Decimal.readNatural_toDigits (by omega), h, rfl⟩⟩
  exact (Nat.length_toDigits_le_iff (by decide) (by decide)).mpr (by omega)

theorem convert?_text_address (name : String) (a : Address) :
    network.convert? name a.text = some (.network ⟨a, a.bits⟩) := by
  obtain ⟨hne, hchars⟩ := Address.chars_of_read? (Address.read?_text a)
  have hmatches := matches_network hne hchars matches_length_nil
  rw [List.append_nil] at hmatches
  rw [convert?_network, parse_network, splitLength_of_notMem (slash_notMem_text a)]
  exact ⟨hmatches, a, Address.read?_text a, .inl ⟨rfl, rfl⟩⟩

/-- A variable for networks reads the text form of each network as that network, and the text form
of an address as the network with all bits of the address. In every value that it has, the number of
bits is at most that of the address. -/
theorem network_reads_texts (name : String) :
    (∀ n : Network, n.length ≤ n.address.bits →
      network.convert? name n.text = some (.network n)) ∧
    (∀ a : Address, network.convert? name a.text = some (.network ⟨a, a.bits⟩)) ∧
    ∀ t v, network.parse t = .ok v →
      ∃ n : Network, v = .network n ∧ n.length ≤ n.address.bits :=
  ⟨fun _ h => convert?_text_network name h, convert?_text_address name,
    fun _ _ h => length_le_of_parse_network h⟩

/-- A network whose address has zeros that are left out, one with an embedded address, and one that
is given without a number of bits. -/
theorem network_reads_texts_zeros :
    network.convert? "net" "2001:db8::/32" =
      some (.network ⟨.v6 0x2001 0xdb8 0 0 0 0 0 0, 32⟩) ∧
    network.convert? "net" "::ffff:10.0.0.1/104" =
      some (.network ⟨.v6 0 0 0 0 0 0xffff 0x0a00 1, 104⟩) ∧
    network.convert? "net" "10.0.0.1" = some (.network ⟨.v4 10 0 0 1, 32⟩) ∧
    ∃ n : Network, Value.network ⟨.v4 10 0 0 1, 8⟩ = .network n ∧ n.length ≤ n.address.bits := by
  obtain ⟨hnetwork, haddress, hlength⟩ := network_reads_texts "net"
  have hzeros : Network.text ⟨.v6 0x2001 0xdb8 0 0 0 0 0 0, 32⟩ = "2001:db8::/32" := by
    decide +kernel
  have hembedded : Network.text ⟨.v6 0 0 0 0 0 0xffff 0x0a00 1, 104⟩ = "::ffff:10.0.0.1/104" := by
    decide +kernel
  have halone : Address.text (.v4 10 0 0 1) = "10.0.0.1" := by decide +kernel
  have hparse : network.parse "10.0.0.1/8" = .ok (.network ⟨.v4 10 0 0 1, 8⟩) := by
    rw [parse_network]
    exact ⟨.v4 10 0 0 1, by decide +kernel, .inr ⟨['8'], 8, by decide +kernel, rfl, by decide, rfl⟩⟩
  exact ⟨hzeros ▸ hnetwork _ (by decide), hembedded ▸ hnetwork _ (by decide),
    halone ▸ haddress (.v4 10 0 0 1), hlength _ _ hparse⟩

end Kind

end CommandGrammar
