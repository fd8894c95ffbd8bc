import Lehen.Base64
import Lehen.Python

/-!
python-jose, as far as the Hub uses it: readers that verify nothing, `decode`,
which does, and `encode`. The library is a parameter; what the Hub relies on is
stated in `Jose.Lawful`.
-/

namespace Lehen

open Base64 (Bytes)

/-- `ExpiredSignatureError` and `JWTClaimsError` are subclasses of `JWTError`. -/
inductive JoseErrorKind where
  | expiredSignature | claims | jwt | jwk
  deriving DecidableEq, Repr

structure JoseError where
  kind : JoseErrorKind
  text : String
  deriving DecidableEq, Repr

inductive JoseKey where
  | jwk (key : Json)
  | secret (key : Bytes)

/-- The keyword arguments of `decode`. -/
structure Expected where
  algorithms : List String
  audience : String
  issuer : Option String
  verifyIss : Bool
  deriving DecidableEq, Repr

/-- `decode` reads the clock by itself; here it gets the seconds it reads. -/
structure Jose where
  getUnverifiedHeader : String → Except JoseError (Dict Json)
  getUnverifiedClaims : String → Except JoseError (Dict Json)
  decode : String → JoseKey → Expected → Int → Except JoseError (Dict Json)
  encode : Dict Json → Bytes → String → String

/-- What a decoded token passed. A claim that is absent is not checked, but for
the issuer. -/
structure Jose.Lawful (jose : Jose) : Prop where
  reads : ∀ token key expected now claims, jose.decode token key expected now = .ok claims →
    jose.getUnverifiedClaims token = .ok claims
  issuer : ∀ token key expected now claims issuer, jose.decode token key expected now = .ok claims →
    expected.verifyIss = true → expected.issuer = some issuer →
      claims.lookup "iss" = some (.str issuer)
  expiry : ∀ token key expected now claims value, jose.decode token key expected now = .ok claims →
    claims.lookup "exp" = some value → ∃ seconds, value.toInt = .ok seconds ∧ now ≤ seconds
  audience : ∀ token key expected now claims value, jose.decode token key expected now = .ok claims →
    claims.lookup "aud" = some value →
      value = .str expected.audience ∨ ∃ items, value = .arr items ∧ .str expected.audience ∈ items

namespace Jose

/-! A library that knows the tokens of a table, each with its algorithm and its
payload, and checks a claim where the token has it. -/

def issuerFine (expected : Expected) (claims : Dict Json) : Bool :=
  match expected.issuer with
  | some issuer =>
      !expected.verifyIss || match claims.lookup "iss" with | some (.str own) => own == issuer | _ => false
  | none => true

def expiryFine (now : Int) (claims : Dict Json) : Bool :=
  match claims.lookup "exp" with
  | some value => match value.toInt with | .ok seconds => now ≤ seconds | .error _ => false
  | none => true

def audienceFine (audience : String) (claims : Dict Json) : Bool :=
  match claims.lookup "aud" with
  | some (.str own) => own == audience
  | some (.arr items) => items.any fun item => match item with | .str own => own == audience | _ => false
  | some _ => false
  | none => true

def ofTable (table : String → Option (String × Dict Json)) : Jose where
  getUnverifiedHeader token :=
    match table token with
    | some _ => .ok (Dict.ofList [("kid", .str "k")])
    | none => .error ⟨.jwt, "Error decoding token headers."⟩
  getUnverifiedClaims token :=
    match table token with
    | some entry => .ok entry.2
    | none => .error ⟨.jwt, "Error decoding token claims."⟩
  decode token _ expected now :=
    match table token with
    | some entry =>
        if entry.1 ∈ expected.algorithms then
          if issuerFine expected entry.2 && expiryFine now entry.2 && audienceFine expected.audience entry.2
          then .ok entry.2 else .error ⟨.claims, "Invalid claims"⟩
        else .error ⟨.jwt, "Signature verification failed."⟩
    | none => .error ⟨.jwt, "Error decoding token headers."⟩
  encode _ _ _ := ""

theorem table_decoded {table : String → Option (String × Dict Json)} {token : String} {key : JoseKey}
    {expected : Expected} {now : Int} {claims : Dict Json}
    (decoded : (ofTable table).decode token key expected now = .ok claims) :
    (∃ algorithm, table token = some (algorithm, claims)) ∧ issuerFine expected claims = true ∧
      expiryFine now claims = true ∧ audienceFine expected.audience claims = true := by
  simp only [ofTable] at decoded
  cases found : table token with
  | none =>
      rw [found] at decoded
      cases decoded
  | some entry =>
      simp only [found] at decoded
      split at decoded
      · split at decoded
        · next fine =>
            obtain rfl := Except.ok.inj decoded
            simp only [Bool.and_eq_true] at fine
            exact ⟨⟨entry.1, rfl⟩, fine.1.1, fine.1.2, fine.2⟩
        · cases decoded
      · cases decoded

theorem table_lawful (table : String → Option (String × Dict Json)) : (ofTable table).Lawful := by
  constructor
  · intro token key expected now claims decoded
    obtain ⟨⟨algorithm, found⟩, _⟩ := table_decoded decoded
    simp only [ofTable, found]
  · intro token key expected now claims issuer decoded verify given
    have ⟨_, fine, _⟩ := table_decoded decoded
    simp only [issuerFine, given, verify, Bool.not_true, Bool.false_or] at fine
    split at fine
    · next own same =>
        rw [beq_iff_eq] at fine
        rw [same, fine]
    · cases fine
  · intro token key expected now claims value decoded given
    have ⟨_, _, fine, _⟩ := table_decoded decoded
    simp only [expiryFine, given] at fine
    split at fine
    · next seconds whole => exact ⟨seconds, whole, of_decide_eq_true fine⟩
    · cases fine
  · intro token key expected now claims value decoded given
    have ⟨_, _, _, fine⟩ := table_decoded decoded
    simp only [audienceFine, given] at fine
    cases value with
    | str own =>
        left
        rw [beq_iff_eq.mp fine]
    | arr items =>
        right
        obtain ⟨item, member, same⟩ := List.any_eq_true.mp fine
        cases item with
        | str own =>
            rw [beq_iff_eq.mp same] at member
            exact ⟨items, rfl, member⟩
        | _ => cases same
    | _ => cases fine

end Jose

end Lehen
