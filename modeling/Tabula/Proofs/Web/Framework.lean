import Mathlib.Tactic.Lemma
import Tabula.Json.Read
import Tabula.Text.Word
import Tabula.Web

/-!
What is relied on in a framework.

A framework serves an application if a request for an endpoint is answered with what the endpoint
gives back, encoded, or with what the application makes of its failure, and if nothing but endpoints
of its method is reached by a request. Nothing is said of how other requests are answered, nor of
content that cannot be encoded.
-/

namespace Tabula.Web

variable {σ : Type}

/-- The body is the text of an object with this member, a text, and no other. -/
def Carries (body : List UInt8) (member text : String) : Prop :=
  ∃ s, body = s.toUTF8.toList ∧
    Json.readDocument 1 s = .ok (.object [(.ofString member, .text (.ofString text))])

/-- A name that is not empty, of word characters. -/
def IsName (name : String) : Prop := name ≠ "" ∧ ∀ c ∈ name.toList, Text.isWordChar c = true

/-- A request is one for an endpoint, which does this with it. -/
inductive Endpoint.Takes : Endpoint σ → Request → (σ → σ × Except Failure Content) → Prop
  | plain {method path : String} {run : σ → σ × Except Failure Content} (body : List UInt8) :
    Takes ⟨method, path, .plain run⟩ ⟨method, path, body⟩ run
  | ofBody {method path member : String} {run : String → σ → σ × Except Failure Content}
    {body : List UInt8} {text : String} (h : Carries body member text) :
    Takes ⟨method, path, .ofBody member run⟩ ⟨method, path, body⟩ (run text)
  | ofPath {method path name : String} {run : String → σ → σ × Except Failure Content}
    (body : List UInt8) (h : IsName name) :
    Takes ⟨method, path, .ofPath run⟩ ⟨method, path ++ name, body⟩ (run name)

/-- What an endpoint may do, whatever it is handed. -/
inductive Handler.Offers : Handler σ → (σ → σ × Except Failure Content) → Prop
  | plain (run : σ → σ × Except Failure Content) : Offers (.plain run) run
  | ofBody (member : String) (run : String → σ → σ × Except Failure Content) (text : String) :
    Offers (.ofBody member run) (run text)
  | ofPath (run : String → σ → σ × Except Failure Content) (rest : String) :
    Offers (.ofPath run) (run rest)

namespace Framework

/-- The framework serves the application. -/
structure Serves (fw : Framework) (app : App σ) : Prop where
  /-- a member stands under its name -/
  names : ∀ s, fw.key (.name s) = s
  /-- a request leaves the state that its endpoint leaves -/
  runs : ∀ {e r run}, e ∈ app.endpoints → e.Takes r run → ∀ s, (fw.handle app s r).1 = (run s).1
  /-- what the endpoint gives back is encoded -/
  sends : ∀ {e r run}, e ∈ app.endpoints → e.Takes r run → ∀ {s content body},
    (run s).2 = .ok content → content.json? fw.key = some body →
      (fw.handle app s r).2 = ⟨200, some body⟩
  /-- a failure is answered as the application says -/
  catches : ∀ {e r run}, e ∈ app.endpoints → e.Takes r run →
    ∀ {s failure status content body}, (run s).2 = .error failure →
      app.caught failure = some (status, content) → content.json? fw.key = some body →
        (fw.handle app s r).2 = ⟨status, some body⟩
  /-- a failure that the application says nothing about is one of the service -/
  fails : ∀ {e r run}, e ∈ app.endpoints → e.Takes r run → ∀ {s failure},
    (run s).2 = .error failure → app.caught failure = none → (fw.handle app s r).2.status = 500
  /-- only endpoints of the request's method are reached -/
  reaches : ∀ s r, (fw.handle app s r).1 = s ∨
    ∃ e ∈ app.endpoints, e.method = r.method ∧
      ∃ run, e.handler.Offers run ∧ (fw.handle app s r).1 = (run s).1

variable {fw : Framework} {app : App σ}

/-! ### Requests one after the other -/

/-- Every request is handled as it is after those before it. -/
lemma getElem?_handleAll (s : σ) (rs : List Request) (n : Nat) :
    (fw.handleAll app s rs).2[n]? =
      rs[n]?.map fun r => (fw.handle app (fw.handleAll app s (rs.take n)).1 r).2 := by
  induction rs generalizing s n with
  | nil => rfl
  | cons r rs ih =>
    cases n with
    | zero => rfl
    | succ n => exact ih _ n

lemma length_handleAll (s : σ) (rs : List Request) :
    (fw.handleAll app s rs).2.length = rs.length := by
  induction rs generalizing s with
  | nil => rfl
  | cons r rs ih => exact congrArg (· + 1) (ih _)

end Framework

end Tabula.Web
