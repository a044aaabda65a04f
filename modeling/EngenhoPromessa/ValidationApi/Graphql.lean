import EngenhoPromessa.ValidationApi.Rest

/-
  The compliance resolver of the GraphQL face.

  Key definitions include:
    * `Graphql.complianceState`
-/

------------------------------------------------------------
-- The Resolver
------------------------------------------------------------

namespace EngenhoPromessa

namespace Graphql

/- The loop of the resolver, which a critical one leaves. -/
def complianceStateFrom
    (state : String) :
    List AkeylessImageValidation → String
| [] => state
| v :: vs =>
    match v.gateDecision? with
    | none => complianceStateFrom state vs
    | some gd =>
        if gd.severity = "Critical" then
          "Critical"
        else if gd.severity = "Functional" ∧
            state = "Cosmetic" then
          complianceStateFrom "Functional" vs
        else
          complianceStateFrom state vs

/- Starts as cosmetic, with no decision met. -/
def complianceState (p : ValidationProjection) : String :=
  complianceStateFrom "Cosmetic" p.snapshot.validations

end Graphql

end EngenhoPromessa
