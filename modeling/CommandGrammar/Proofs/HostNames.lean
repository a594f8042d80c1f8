import CommandGrammar.Proofs.Conversion

/-! Names and addresses of hosts. What can be read as an address is no name, even if it has the form
of one, so that a variable for either of them gives what the one or the other of the two kinds
gives, and these never take the same token. -/

namespace CommandGrammar

namespace Kind

/-! ### The form of a name -/

/-- A letter or a digit, with which each part of a name begins. -/
def nameStart : CharClass := .anyCase (.union (.union .none (.range 65 90)) (.range 48 57))

/-- A letter, a digit, an underscore or a hyphen. -/
def nameChar : CharClass :=
  .anyCase (.union (.union (.union (.union .none (.range 65 90)) (.range 48 57)) (.range 95 95))
    (.range 45 45))

/-- A letter, with which the last of several parts ends. -/
def nameEnd : CharClass := .anyCase (.union .none (.range 65 90))

/-- The point between parts. -/
def namePoint : Expr := .chars (.anyCase (.range 46 46))

/-- The expression of a host name: a part, and possibly more of them and a point at the end. -/
def hostNameExpr : Expr :=
  .cat (.chars nameStart) (.cat (.rep (.chars nameChar) 0 none)
    (.cat
      (.rep
        (.cat
          (.rep (.cat namePoint (.cat (.chars nameStart) (.rep (.chars nameChar) 0 none))) 0 none)
          (.cat namePoint
            (.cat (.chars nameStart) (.cat (.rep (.chars nameChar) 0 none) (.chars nameEnd)))))
        0 (some 1))
      (.rep namePoint 0 (some 1))))

theorem bounded_hostNameExpr : hostNameExpr.Bounded := by
  simp [hostNameExpr, namePoint, Expr.Bounded]

theorem compile?_hostName :
    Pattern.compile? hostNamePattern = some ⟨hostNamePattern, hostNameExpr.whole⟩ := by
  decide +kernel

/-- The expression of an address or a host name. -/
def hostExpr : Expr := .alt (.rep (.chars addressClass) 1 none) hostNameExpr

theorem bounded_hostExpr : hostExpr.Bounded := ⟨⟨trivial, nofun⟩, bounded_hostNameExpr⟩

/-- The letters of an address are no less those of one for being followed by a name in which
capital and small letters are the same. -/
theorem compile?_host : Pattern.compile? (addressPattern ++ "|" ++ hostNamePattern) =
    some ⟨addressPattern ++ "|" ++ hostNamePattern, hostExpr.whole⟩ := by
  decide +kernel

theorem hasHostNameForm_iff {text : String} :
    hasHostNameForm text = true ↔ hostNameExpr.Matches none text.toList none := by
  rw [hasHostNameForm, compile?_hostName, Option.any_some]
  exact Expr.occursIn_whole bounded_hostNameExpr text

/-! ### Values -/

theorem parse_address {text : String} {v : Value} :
    address.parse text = .ok v ↔ ∃ a, Address.read? text = some a ∧ v = .address a := by
  simp only [address, plain]
  cases Address.read? text with
  | none => simp [refuse]
  | some a => simp [eq_comm]

theorem convert?_address {name text : String} {v : Value} :
    address.convert? name text = some v ↔ ∃ a, Address.read? text = some a ∧ v = .address a := by
  have hcompile : (Pattern.compile? addressPattern).isSome = true := by rw [compile?_address]; rfl
  rw [address_fitsValues.convert?_eq_some_iff rfl hcompile, parse_address]

/-- A name is no address, has as many parts as are asked for, and ends as is asked for. -/
theorem parse_hostName {parts : Nat} {ending : Option String} {text : String} {v : Value} :
    (hostName parts ending).parse text = .ok v ↔ Address.read? text = none ∧
      parts ≤ countParts text ∧ (∀ e ∈ ending, text.endsWith e = true) ∧ v = .str text := by
  simp only [hostName, plain, refuse, refuseWith]
  cases Address.read? text with
  | some a => simp
  | none =>
    by_cases hparts : parts ≤ countParts text
    · have hnot : ¬(0 < parts && decide (countParts text < parts)) = true := by
        simp [hparts]
      cases ending with
      | none => simp [hnot, hparts, @eq_comm _ v]
      | some e => by_cases he : text.endsWith e = true <;> simp [hnot, hparts, he, @eq_comm _ v]
    · have hfew : (0 < parts && decide (countParts text < parts)) = true := by
        rw [Bool.and_eq_true, decide_eq_true_eq, decide_eq_true_eq]
        omega
      simp [hfew, hparts]

theorem convert?_hostName {parts : Nat} {ending : Option String} {name text : String} {v : Value} :
    (hostName parts ending).convert? name text = some v ↔
      hostNameExpr.Matches none text.toList none ∧ Address.read? text = none ∧
        parts ≤ countParts text ∧ (∀ e ∈ ending, text.endsWith e = true) ∧ v = .str text := by
  rw [convert?_eq_some_iff bounded_hostNameExpr rfl compile?_hostName, parse_hostName]

theorem parse_host {text : String} {v : Value} :
    host.parse text = .ok v ↔ address.parse text = .ok v ∨
      hostNameExpr.Matches none text.toList none ∧ (hostName 0 none).parse text = .ok v := by
  rw [← hasHostNameForm_iff, parse_address, parse_hostName]
  simp only [host, plain, refuse]
  cases hread : Address.read? text with
  | some a => simp [@eq_comm _ v]
  | none =>
    dsimp only
    cases hasHostNameForm text with
    | false => simp
    | true => simp [parse_hostName, hread]

/-- What can be read as an address matches the expression of an address or a name. -/
theorem convert?_host {name text : String} {v : Value} :
    host.convert? name text = some v ↔ address.parse text = .ok v ∨
      hostNameExpr.Matches none text.toList none ∧ (hostName 0 none).parse text = .ok v := by
  rw [convert?_eq_some_iff bounded_hostExpr rfl compile?_host, parse_host, and_iff_right_iff_imp]
  rintro (haddress | ⟨hname, -⟩)
  · have hfits := address_fitsValues text v haddress addressPattern rfl _ compile?_address
    exact .inl ((Expr.occursIn_whole bounded_hostExpr.1 text).mp hfits)
  · exact .inr hname

/-- An address or a host name has the values that an address has and those that a host name has,
and no token has both. -/
theorem host_converts_either (name text : String) :
    (∀ v, host.convert? name text = some v ↔
      address.convert? name text = some v ∨ (hostName 0 none).convert? name text = some v) ∧
    ¬((address.convert? name text).isSome = true ∧
      ((hostName 0 none).convert? name text).isSome = true) := by
  constructor
  · intro v
    rw [convert?_host, convert?_address, convert?_hostName, parse_address, parse_hostName]
  · rw [Option.isSome_iff_exists, Option.isSome_iff_exists]
    rintro ⟨⟨v, hv⟩, ⟨w, hw⟩⟩
    obtain ⟨a, ha, -⟩ := convert?_address.mp hv
    obtain ⟨-, hnone, -⟩ := convert?_hostName.mp hw
    rw [ha] at hnone
    cases hnone

end Kind

end CommandGrammar
