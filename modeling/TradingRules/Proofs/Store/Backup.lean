import Mathlib.Data.List.Forall2
import TradingRules.Proofs.Json.Rereading
import TradingRules.Proofs.Store.Files
import TradingRules.Proofs.Strategy.Percent
import TradingRules.Proofs.Strategy.Saved

namespace TradingRules

/-- A strategy as it is shown for a row: what the row is read as, with all identities. -/
def Row.ShownAs (r : Row) (x : SavedStrategy) : Prop :=
  ∃ saved ids, r.saved = .ok saved ∧ saved.IdentifiedAs ids x

theorem Row.ShownAs.listing {r : Row} {x : SavedStrategy} (h : r.ShownAs x) :
    r.listing = x.listing := by
  obtain ⟨saved, ids, hsaved, hids⟩ := h
  obtain ⟨hid, hname, -⟩ := Row.of_saved hsaved
  rw [Row.listing, SavedStrategy.listing, hids.id, hids.name, hid, hname]

theorem SavedStrategy.readable_toJson {x : SavedStrategy} (hid : 0 ≤ x.id.number)
    (hstrategy : x.strategy.Proper) {levels : Nat} (hlevels : 3 < levels) :
    x.toJson.Readable levels := by
  obtain ⟨n, hn⟩ := Int.eq_ofNat_of_zero_le hid
  exact within_toJson (hn ▸ Number.readable_ofNat n) (by omega)
    (Strategy.readable_toJson hstrategy (by omega))

abbrev Rows.Shown (rows : List Row) (xs : List SavedStrategy) : Prop :=
  List.Forall₂ Row.ShownAs rows xs

namespace Rows.Shown

variable {rows : List Row} {xs : List SavedStrategy}

theorem of_saved {saveds : List (SavedStrategy (Option String))}
    (hrows : rows.map (·.saved) = saveds.map .ok)
    (h : List.Forall₂ (fun saved x ↦ ∃ ids, saved.IdentifiedAs ids x) saveds xs) :
    Rows.Shown rows xs := by
  induction h generalizing rows with
  | nil =>
    obtain rfl := List.map_eq_nil_iff.mp hrows
    exact .nil
  | cons hx _ ih =>
    obtain ⟨r, rows, rfl, hr, hrows⟩ := List.map_eq_cons_iff.mp hrows
    obtain ⟨ids, hids⟩ := hx
    exact .cons ⟨_, ids, hr, hids⟩ (ih hrows)

theorem map_listing (h : Rows.Shown rows xs) : rows.map (·.listing) = xs.map (·.listing) := by
  rw [← List.forall₂_eq_eq_eq, List.forall₂_map_left_iff, List.forall₂_map_right_iff]
  exact h.imp fun _ _ ↦ Row.ShownAs.listing

theorem map_id (h : Rows.Shown rows xs) : xs.map (·.id) = rows.map (·.strategyId) := by
  have hids := congrArg (List.map Listing.id) h.map_listing
  rw [List.map_map, List.map_map] at hids
  exact hids.symm

end Rows.Shown

namespace Table

variable {t : Table} {owner : String}

def Readable (t : Table) (owner : String) : Prop :=
  ∀ r ∈ t.of owner, ∃ saved, r.saved = .ok saved

end Table

namespace Files

variable {σ : Type} {h : Files σ} {path : String} {l : Local} {s : σ} {t : Table}

end Files

/-- What can happen where a store is used: a call of the store, or something else that leaves the
host in another state, as when others use the same file. -/
inductive Occurrence (σ : Type)
  | call (c : Call)
  | elsewhere (s : σ)

namespace Files

variable {σ : Type}

def run (h : Files σ) : List (Occurrence σ) → Local × σ → Local × σ
  | [], x => x
  | .call c :: os, x =>
    let y := h.perform (x.1.answer c) x.2
    run h os (y.1.2, y.2)
  | .elsewhere s :: os, x => run h os (x.1, s)

variable {h : Files σ} {path : String} {l l' : Local} {s s' : σ} {os : List (Occurrence σ)}

theorem Sound.of_same (hs' : h.Sound l s') (hsame : l.Same l') (hs : h.Sound l' s) :
    h.Sound l' s' := by
  unfold Sound table? at *
  cases hshelf : l'.shelf with
  | memory t => simpa [hshelf] using hs
  | file p => simpa [(hsame.file p).mp hshelf] using hs'

end Files

end TradingRules
