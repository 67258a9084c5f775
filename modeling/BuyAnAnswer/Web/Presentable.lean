import BuyAnAnswer.Web.Handle
import BuyAnAnswer.Workers.Outcomes

/-!
# Profiles in good form

Whatever is stored of a profile has been accepted by the schemas: its texts are trimmed
and within their bounds, its links lead somewhere and its price is a price.
-/

namespace BuyAnAnswer.Web

open Text Shared Api Workers BuyAnAnswer.Transaction

/-! ## What the schemas let through -/

/-- A trimmed text of a bounded length. -/
structure Neat (least most : ℕ) (text : Text) : Prop where
  trimmed : trim text = text
  least : least ≤ utf16Length text
  most : utf16Length text ≤ most

structure Linkable (runtime : Runtime) (link : ProfileLink) : Prop where
  label : Neat 1 30 link.label
  url : Neat 0 200 link.url
  protocol : runtime.urlProtocol link.url = some "http:".toList ∨
    runtime.urlProtocol link.url = some "https:".toList

structure Listable (runtime : Runtime) (links : List ProfileLink) : Prop where
  each : ∀ link ∈ links, Linkable runtime link
  count : links.length ≤ 10

section Schemas

variable {runtime : Runtime} {field : Option JsonValue} {value text : Text}
variable {least most : ℕ}

end Schemas

/-! ## Rows -/

structure Presentable (runtime : Runtime) (row : Creator) : Prop where
  handle : Claimable row.handle
  displayName : Neat 1 50 row.displayName
  headline : ∀ text ∈ row.headline, Neat 0 80 text
  bio : ∀ text ∈ row.bio, Neat 0 500 text
  links : ∀ links ∈ row.links, Listable runtime links
  price : IsPrice row.minPriceUsdc

/-- The operation leaves profiles in good form. -/
def KeepsNeat (runtime : Runtime) : Operation → Prop
  | .database (.insertCreator row) => Presentable runtime row
  | .database (.updateCreator _ patch) =>
    ∀ row, Presentable runtime row → Presentable runtime (patch.apply row)
  | _ => True

section Rows

variable {runtime : Runtime} {wallet : Text} {now : ℕ}

end Rows

/-! ## Statements -/

section Statements

variable {runtime : Runtime} {context : RequestContext} {wallet : Text}

def AllPresentable (runtime : Runtime) (tables : Tables) : Prop :=
  ∀ row ∈ tables.creators, Presentable runtime row

theorem AllPresentable.effect {statement : Statement} {tables : Tables}
    (hrows : AllPresentable runtime tables)
    (hpresents : KeepsNeat runtime (.database statement)) :
    AllPresentable runtime (statement.effect tables) := by
  cases statement with
  | insertCreator row =>
      intro other hother
      obtain hold | hlast := List.mem_append.mp hother
      · exact hrows other hold
      · rw [List.mem_singleton.mp hlast]
        exact hpresents
  | updateCreator wallet patch =>
      intro other hother
      obtain ⟨hold, _⟩ | ⟨old, hold, _, rfl⟩ := Table.mem_update.mp hother
      · exact hrows other hold
      · exact hpresents old (hrows old hold)
  | _ => exact hrows

end Statements

end BuyAnAnswer.Web
