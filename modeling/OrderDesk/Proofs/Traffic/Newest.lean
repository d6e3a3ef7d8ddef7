import OrderDesk.Proofs.Newest
import OrderDesk.Proofs.Traffic.Reading

/-!
# Listings in a run

Whatever calls are served at the same time, each order is kept under its own order ID. This is all
that a listing needs in order to be the newest part of a user's orders.

## Main results

* `OrderDesk.Traffic.keyed_orders_play` — in every run each order is kept under its order ID.
* `OrderDesk.Traffic.newest_play` — in every run a listing shows the newest orders.
-/

set_option autoImplicit false

namespace OrderDesk.Traffic

variable {α : Type}

/-- In every run each order is stored under its order ID. -/
theorem keyed_orders_play {d : Desk} (hd : d.Keyed) (calls : List (Program α))
    (schedule : List Choice) :
    ((start d calls).play schedule).desk.orders.Keyed fun o => o.orderId :=
  orders_settled _ ▸ (keyed_settled_play hd calls schedule).orders

/-- **A listing is the newest part of a user's orders.** In every run, for every user, status and
limit: the listing shows stored orders of the user, each strictly newer than the next, as many as
there are within the limit, all newer than what is left out; it is the same however the rows of the
orders are arranged; and it is the beginning of every listing with a larger limit or none. For every
configuration that is taken, the default limit lies between one and a hundred, who asks for no limit
is served by the same steps as who asks for this one, and a listing tells the number of its orders,
which is at most the limit it tells.

**Proof sketch.** Orders are kept under their order IDs, so that no two of them share a place in the
order of listings. Everything else is about one desk. -/
theorem newest_play (d : Desk) (hd : d.Keyed) (calls : List (Program α))
    (schedule : List Choice) :
    let desk := ((start d calls).play schedule).desk
    (∀ owner status,
      (∀ limit, desk.IsNewest owner status limit (desk.ordersOf owner status limit)) ∧
      (∀ (limit : Option Nat) (e : Desk), e.orders.rows.Perm desk.orders.rows →
        e.ordersOf owner status limit = desk.ordersOf owner status limit) ∧
      ∀ k, desk.ordersOf owner status (some k) <+: desk.ordersOf owner status none ∧
        ∀ n, k ≤ n → desk.ordersOf owner status (some k) <+: desk.ordersOf owner status (some n)) ∧
    ∀ environment text config, Config.ofText environment text = .ok config →
      let limit := config.defaultListLimit
      1 ≤ limit ∧ limit ≤ 100 ∧
      ∀ query : ListingQuery,
        (Call.orders { query with limit := none }).program limit =
          (Call.orders { query with limit := some (limit : Int) }).program limit ∧
        ∀ moments listing, (Call.orders query).reply limit moments desk = .ok (.listing listing) →
          listing.limit = query.limit.elim limit Int.toNat ∧
          listing.orders =
            (desk.ordersOf ⟨query.username⟩ query.status (some listing.limit)).map Order.view ∧
          listing.count = listing.orders.length ∧ listing.count ≤ listing.limit := by
  intro desk
  have horders : desk.orders.Keyed fun o => o.orderId := keyed_orders_play hd calls schedule
  have husers : desk.users.Keyed User.username := keyed_users_play hd calls schedule
  constructor
  · intro owner status
    refine ⟨Desk.isNewest_ordersOf horders owner status, fun limit e hrows =>
      Desk.ordersOf_perm horders hrows owner status limit, fun k => ⟨?_, fun n hkn => ?_⟩⟩
    · exact List.take_prefix k _
    · rw [Desk.ordersOf_take desk owner status hkn]
      exact List.take_prefix k _
  · intro environment text config hconfig
    obtain ⟨hmin, hmax⟩ := Config.listLimit_of_ofText hconfig
    refine ⟨hmin, hmax, fun query => ⟨Call.program_orders_default hmin hmax query, ?_⟩⟩
    intro moments listing hreply
    exact Call.listing_of_reply husers hreply

/-- Alice has an order and places another one in the same second; a listing for one order shows the
newest of the two, and one without a limit is for fifty orders at most. -/
theorem newest_of_two_orders :
    let form : OrderForm :=
      { username := "alice", orderType := .marketBuy, assetId := "btc", quantity := 1,
        orderPrice := none, expiresAt := none }
    let schedule : List Choice := (List.range 14).map fun _ => .turn 0 (.small 0)
    let desk := ((start (Desk.small.putOrder .small) ([.place form].map (Call.program 50))).play
      schedule).desk
    let query : ListingQuery := { username := "alice", status := none, limit := none }
    desk.orders.size = 2 ∧
      desk.IsNewest ⟨"alice"⟩ none (some 1) (desk.ordersOf ⟨"alice"⟩ none (some 1)) ∧
      ∃ listing, (Call.orders query).reply 50 .small desk = .ok (.listing listing) ∧
        listing.count ≤ listing.limit := by
  have hd : (Desk.small.putOrder .small).Keyed := Desk.keyed_small.putOrder .small
  have hconfig : Config.ofText [] "" = .ok .default := by decide +kernel
  have hbound (calls : List (Program Reply)) (schedule : List Choice) (query : ListingQuery)
      (listing : OrderListing) (hreply : (Call.orders query).reply 50 .small
        ((start (Desk.small.putOrder .small) calls).play schedule).desk = .ok (.listing listing)) :
      listing.count ≤ listing.limit :=
    let hdefault := (newest_play _ hd calls schedule).2 [] "" .default hconfig
    ((hdefault.2.2 query).2 .small listing hreply).2.2.2
  refine ⟨?_, ((newest_play _ hd _ _).1 ⟨"alice"⟩ none).1 (some 1), ?_⟩
  · decide +kernel
  · refine Exists.imp (fun listing hreply => ⟨hreply, hbound _ _ _ listing hreply⟩)
      ⟨_, Call.reply_orders_ok_iff.2 ⟨⟨⟨"alice"⟩, .customer, true⟩, rfl, ?_, rfl⟩⟩
    decide +kernel

end OrderDesk.Traffic
