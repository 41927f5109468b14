import Mathlib.Data.List.Induction
import AecBench.Lib.Loops
import AecBench.Worlds.Stewardship.PumpStation.Transitions

/-!
# What the resource operations do

Every operation on reservations ends with the comparison of all pools with all live reservations,
so what is left to say of it is which reservations it changes, and that the pools stay what they
are apart from their quantities.

## Main definitions

* `Pool.stock` — the identity of a pool, its windows, and the stock it has given up.
* `ResourceState.SameStock` — pools that agree in all of these.
* `Conserved` — every pool agrees with its live reservations.

## Main results

* `retain_spec` — a suspension; `setReusableAvailability_spec` — capacity withdrawn and given back.
-/

namespace AecBench.Worlds.PumpStation

open Validation

variable {resources resources' : ResourceState} {reservations reservations' : List PoolReservation}
  {pool pool' : Pool} {poolId : String} {now : ℤ}

/-! ## Pools -/

/-- What an operation on quantities leaves as it is: identity, windows and stock given up. -/
def Pool.stock (pool : Pool) : String × Option (List AvailabilityInterval) × ℤ :=
  (pool.poolId, pool.windows, pool.consumed)

/-- The same pools, up to quantities. -/
def ResourceState.SameStock (resources resources' : ResourceState) : Prop :=
  resources'.pools.map Pool.stock = resources.pools.map Pool.stock

/-- Every pool agrees with its live reservations. -/
def Conserved (resources : ResourceState) (reservations : List PoolReservation) : Prop :=
  resourceConservation resources reservations = []

instance : Decidable (Conserved resources reservations) := inferInstanceAs (Decidable (_ = _))

lemma conserved_eq_ok {detail : String}
    (h : conserved detail resources reservations = .ok (resources', reservations')) :
    resources' = resources ∧ reservations' = reservations ∧ Conserved resources reservations := by
  unfold conserved at h
  obtain ⟨hconserved, hpure⟩ := require_bind_eq_ok.mp h
  cases hpure
  exact ⟨rfl, rfl, hconserved⟩

lemma ResourceState.SameStock.trans {other : ResourceState} (h : resources.SameStock resources')
    (h' : resources'.SameStock other) : resources.SameStock other :=
  Eq.trans h' h

lemma pool_eq_ok (h : resources.pool poolId = .ok pool) :
    pool ∈ resources.pools ∧ pool.poolId = poolId := by
  unfold ResourceState.pool at h
  split at h
  · rename_i found hfound
    cases h
    exact ⟨List.mem_of_find?_eq_some hfound, by simpa using List.find?_some hfound⟩
  · cases h

lemma withPool_eq_ok (h : resources.withPool pool = .ok resources') :
    pool.poolId ∈ resources.pools.map Pool.poolId ∧
      resources'.pools = Table.replace Pool.poolId pool resources.pools := by
  unfold ResourceState.withPool at h
  obtain ⟨old, hold, hmake⟩ := bind_eq_ok.mp h
  obtain ⟨hmem, hid⟩ := pool_eq_ok hold
  unfold ResourceState.make at hmake
  split at hmake
  · cases hmake
    exact ⟨hid ▸ List.mem_map_of_mem hmem, rfl⟩
  · cases hmake

lemma withPool_map {β : Type} {g : Pool → β} (h : resources.withPool pool' = .ok resources')
    (hmem : pool ∈ resources.pools) (hid : pool.poolId = pool'.poolId) (hg : g pool = g pool') :
    resources'.pools.map g = resources.pools.map g := by
  rw [(withPool_eq_ok h).2]
  refine Table.map_replace fun r hr hkey => ?_
  have hpool : r = pool :=
    Table.Keyed.eq_of_key_eq resources.distinct hr hmem (hkey.trans hid.symm)
  rw [hpool, hg]

lemma ReusablePool.make_eq_ok {capacity free reserved unavailable : ℤ}
    {windows : List AvailabilityInterval} {made : ReusablePool}
    (h : ReusablePool.make poolId capacity free reserved unavailable windows = .ok made) :
    made.poolId = poolId ∧ made.reserved = reserved ∧ made.availabilityIntervals = windows := by
  unfold ReusablePool.make at h
  split at h
  · split at h
    · cases h
      exact ⟨rfl, rfl, rfl⟩
    · cases h
  · cases h

lemma ConsumablePool.make_eq_ok {onHand free reserved arrivals consumed discarded opening : ℤ}
    {made : ConsumablePool} (h : ConsumablePool.make poolId onHand free reserved arrivals consumed
      discarded opening = .ok made) :
    made.poolId = poolId ∧ made.reserved = reserved ∧ made.consumed = consumed := by
  unfold ConsumablePool.make at h
  repeat' split at h
  all_goals cases h
  exact ⟨rfl, rfl, rfl⟩

lemma map_eq_ok {α β : Type} {f : α → β} {x : Except Failure α} {b : β} :
    (f <$> x) = .ok b ↔ ∃ a, x = .ok a ∧ f a = b := by
  cases x <;> simp [Functor.map, Except.map]

lemma withQuantities_eq_ok {reusable : ReusablePool} {free reserved unavailable : ℤ}
    (h : reusable.withQuantities free reserved unavailable = .ok pool) :
    pool.stock = (Pool.reusable reusable).stock ∧ pool.reserved = reserved := by
  obtain ⟨made, hmade, rfl⟩ := map_eq_ok.mp h
  obtain ⟨hid, hreserved, hwindows⟩ := ReusablePool.make_eq_ok hmade
  refine ⟨?_, hreserved⟩
  simp only [Pool.stock, Pool.poolId, Pool.windows, Pool.consumed, hid, hwindows]

lemma move_stock {quantity : ℤ} (h : pool.move quantity = .ok pool') : pool'.stock = pool.stock := by
  cases pool with
  | reusable pool => exact (withQuantities_eq_ok h).1
  | consumable pool =>
    obtain ⟨made, hmade, rfl⟩ := map_eq_ok.mp h
    obtain ⟨hid, -, hconsumed⟩ := ConsumablePool.make_eq_ok hmade
    simp only [Pool.stock, Pool.poolId, Pool.windows, Pool.consumed, hid, hconsumed]

lemma move_sameStock {quantity : ℤ} (hmem : ∃ old ∈ resources.pools, old.stock = pool.stock)
    (hmove : pool.move quantity = .ok pool') (h : resources.withPool pool' = .ok resources') :
    resources.SameStock resources' := by
  obtain ⟨old, hold, hstock⟩ := hmem
  have hsame : old.stock = pool'.stock := hstock.trans (move_stock hmove).symm
  exact withPool_map h hold (congrArg Prod.fst hsame) hsame

/-! ## Loops over reservations -/

/-- A loop that settles each reservation by itself and keeps the stock of the pools. -/
lemma settleEach_spec
    {settle : ResourceState → PoolReservation → Except Failure (ResourceState × PoolReservation)}
    {g : PoolReservation → PoolReservation}
    (hsettle : ∀ resources r resources' r', settle resources r = .ok (resources', r') →
      resources.SameStock resources' ∧ r' = g r)
    (h : settleEach settle resources reservations = .ok (resources', reservations')) :
    resources.SameStock resources' ∧ reservations' = reservations.map g := by
  induction reservations generalizing resources reservations' with
  | nil =>
    cases h
    exact ⟨rfl, rfl⟩
  | cons r rs ih =>
    unfold settleEach at h
    obtain ⟨⟨between, r'⟩, hr, hrest⟩ := bind_eq_ok.mp h
    obtain ⟨⟨last, rs'⟩, hrs, hpure⟩ := bind_eq_ok.mp hrest
    cases hpure
    obtain ⟨hfirst, rfl⟩ := hsettle _ _ _ _ hr
    obtain ⟨hlast, rfl⟩ := ih hrs
    exact ⟨hfirst.trans hlast, rfl⟩

/-- What suspension makes of a reservation. -/
def PoolReservation.suspend (now : ℤ) (r : PoolReservation) : PoolReservation :=
  if r.status ≠ .active then r
  else if r.retainOnSuspension then { r with status := .suspendedRetained }
  else { r with
    status := .released
    releasedAtCalendarSeconds := some now
    disposition := some "released_on_suspension" }

/-- **Suspension** changes the active reservations of all processes. -/
lemma retain_spec
    (h : retainConsumableReservations resources reservations now = .ok (resources', reservations')) :
    resources.SameStock resources' ∧ Conserved resources' reservations' ∧
      reservations' = reservations.map (·.suspend now) := by
  unfold retainConsumableReservations at h
  obtain ⟨⟨updated, result⟩, hloop, hend⟩ := bind_eq_ok.mp h
  obtain ⟨rfl, rfl, hconserved⟩ := conserved_eq_ok hend
  suffices hsettle : ∀ resources r resources' r', retainReservation now resources r = .ok (resources', r') →
      resources.SameStock resources' ∧ r' = r.suspend now by
    obtain ⟨hsame, rfl⟩ := settleEach_spec hsettle hloop
    exact ⟨hsame, hconserved, rfl⟩
  intro resources r resources' r' hr
  unfold retainReservation at hr
  unfold PoolReservation.suspend
  by_cases hactive : r.status ≠ .active
  · rw [if_pos hactive] at hr ⊢
    cases hr
    exact ⟨rfl, rfl⟩
  · rw [if_neg hactive] at hr ⊢
    obtain ⟨pool, hpool, hr⟩ := bind_eq_ok.mp hr
    by_cases hretain : r.retainOnSuspension = true
    · rw [if_pos hretain] at hr ⊢
      cases hr
      exact ⟨rfl, rfl⟩
    · rw [if_neg hretain] at hr ⊢
      obtain ⟨-, hr⟩ := require_bind_eq_ok.mp hr
      obtain ⟨moved, hmove, hr⟩ := bind_eq_ok.mp hr
      obtain ⟨swapped, hswap, hr⟩ := bind_eq_ok.mp hr
      cases hr
      exact ⟨move_sameStock ⟨pool, (pool_eq_ok hpool).1, rfl⟩ hmove hswap, rfl⟩

/-! ## Reservations that are made -/

/-- A loop that puts other pools in the place of pools keeps a column in which they agree. -/
lemma foldlM_withPool_map {α β : Type} {g : Pool → β} {step : ResourceState → α →
      Except Failure ResourceState} {items : List α}
    (hstep : ∀ item ∈ items, ∀ between after, between.pools.map g = resources.pools.map g →
      step between item = .ok after → after.pools.map g = between.pools.map g)
    (h : items.foldlM step resources = .ok resources') :
    resources'.pools.map g = resources.pools.map g := by
  induction items using List.reverseRecOn generalizing resources' with
  | nil =>
    cases h
    rfl
  | append_singleton items item ih =>
    rw [List.foldlM_append] at h
    obtain ⟨between, hbetween, hlast⟩ := bind_eq_ok.mp h
    obtain ⟨after, hafter, hpure⟩ := bind_eq_ok.mp hlast
    cases hpure
    have hsame := ih (fun item' hitem' => hstep item' (List.mem_append_left _ hitem')) hbetween
    rw [hstep item (List.mem_append_right _ (List.mem_singleton.mpr rfl)) between resources' hsame
      hafter, hsame]

/-! ## Availability -/

lemma setReusableAvailability_spec {s state : State} {available : Bool}
    (h : s.setReusableAvailability available = .ok state) :
    ∃ updated, state = { s with resources := updated } ∧ s.resources.SameStock updated ∧
      updated.pools.map (fun pool => (pool.poolId, pool.reserved)) =
        s.resources.pools.map (fun pool => (pool.poolId, pool.reserved)) := by
  unfold State.setReusableAvailability at h
  obtain ⟨updated, hloop, hpure⟩ := bind_eq_ok.mp h
  cases hpure
  have hboth : updated.pools.map (fun pool => (pool.stock, pool.reserved)) =
      s.resources.pools.map (fun pool => (pool.stock, pool.reserved)) := by
    refine foldlM_withPool_map ?_ hloop
    intro pool hpool between after hsame hstep
    cases pool with
    | consumable pool =>
      cases hstep
      rfl
    | reusable pool =>
      obtain ⟨-, hstep⟩ := require_bind_eq_ok.mp hstep
      obtain ⟨changed, hchange, hwith⟩ := bind_eq_ok.mp hstep
      obtain ⟨hstock, hreserved⟩ := withQuantities_eq_ok hchange
      have hmem : ((Pool.reusable pool).stock, (Pool.reusable pool).reserved) ∈
          between.pools.map (fun pool => (pool.stock, pool.reserved)) := by
        rw [hsame]
        exact List.mem_map.mpr ⟨_, hpool, rfl⟩
      obtain ⟨old, hold, hcolumns⟩ := List.mem_map.mp hmem
      have heq : (old.stock, old.reserved) = (changed.stock, changed.reserved) := by
        rw [hcolumns, hstock, hreserved]
        rfl
      exact withPool_map hwith hold (congrArg (fun c => c.1.1) heq) heq
  refine ⟨updated, rfl, ?_, ?_⟩
  · have hfirst := congrArg (List.map Prod.fst) hboth
    simpa [ResourceState.SameStock, Function.comp_def] using hfirst
  · have hcolumns := congrArg (List.map fun c : (String × Option (List AvailabilityInterval) × ℤ) × ℤ
      => (c.1.1, c.2)) hboth
    simpa [Function.comp_def, Pool.stock] using hcolumns

end AecBench.Worlds.PumpStation
