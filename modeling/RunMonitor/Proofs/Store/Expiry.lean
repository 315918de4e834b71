import RunMonitor.Proofs.SortedMap
import RunMonitor.Proofs.Store.Access

namespace RunMonitor

/-! The store against a map whose entries vanish at the instant of their expiry. -/

namespace Rows

theorem live_purge (rows : Rows) {now t : Int} (hle : now ≤ t) (key : String) :
    (rows.purge now).live t key = rows.live t key := by
  unfold live purge
  rw [SortedMap.find?_filter]
  cases rows.find? key with
  | none => rfl
  | some row =>
      by_cases hrow : row.isLive t
      · simp [Option.filter_some, hrow, isLive_of_le hle hrow]
      · by_cases hnow : row.isLive now <;> simp [Option.filter_some, hrow, hnow]

theorem expiredCount_eq (rows : Rows) (now : Int) :
    rows.expiredCount now = (rows.keys.filter fun key => (rows.live now key).isNone).length := by
  have hrow : ∀ entry ∈ rows.entries, (!entry.2.isLive now) = (rows.live now entry.1).isNone := by
    intro entry member
    have hfind : rows.find? entry.1 = some entry.2 := rows.mem_entries_iff.mp member
    unfold live
    rw [hfind, Option.filter_some]
    cases entry.2.isLive now <;> rfl
  unfold expiredCount SortedMap.values SortedMap.keys
  rw [List.filter_map, List.filter_map, List.length_map, List.length_map]
  exact congrArg List.length (List.filter_congr hrow)

/-- What an update hands to its function, found out by one that fails with what it is given. -/
def handed (rows : Rows) (now : Int) (key : String) : Option ByteArray :=
  match rows.modify now key fun value => Except.error value with
  | .ok _ => none
  | .error value => value

theorem modify_eq {ε : Type} (rows : Rows) (now : Int) (key : String)
    (f : Option ByteArray → Except ε ByteArray) :
    rows.modify now key f =
      (f (rows.handed now key)).map fun value => rows.put now key value none := by
  show _ = (f (rows.live now key)).map _
  unfold modify
  cases f (rows.live now key) <;> rfl

end Rows

structure Timed where
  time : Int
  {β : Type}
  call : StoreCall β

/-- What can be told of a call from outside: the reply to a get, and what an update hands to its
function and replies. -/
inductive Sight where
  | got (reply : Except Error (Option ByteArray))
  | updated (handed : Option ByteArray) (reply : Except Error Unit)

namespace StoreCall

variable {β : Type}

theorem perform_update (now : Int) (rows : Rows) (key : String)
    (f : Option ByteArray → Except Error ByteArray) :
    (StoreCall.update key f).perform now rows =
      match f (rows.handed now key) with
      | .ok value => (.ok (), rows.put now key value none)
      | .error error => (.error error, rows) := by
  simp only [perform, Rows.modify_eq]
  cases f (rows.handed now key) <;> rfl

def sight? (now : Int) (rows : Rows) : StoreCall β → Option Sight
  | .get key => some (.got ((StoreCall.get key).perform now rows).1)
  | .update key f =>
      some (.updated (rows.handed now key) ((StoreCall.update key f).perform now rows).1)
  | .set _ _ _ | .delete _ | .purge => none

def ExpiresInRange (now : Int) : StoreCall β → Prop
  | .set _ _ (some ttl) => Rows.InRange (now + ttl)
  | _ => True

def isPurge : StoreCall β → Bool
  | .purge => true
  | _ => false

end StoreCall

namespace Rows

def step (rows : Rows) (timed : Timed) : Rows := (timed.call.perform timed.time rows).2

def after (rows : Rows) (usage : List Timed) : Rows := usage.foldl step rows

def sights (rows : Rows) : List Timed → List Sight
  | [] => []
  | timed :: rest => (timed.call.sight? timed.time rows).toList ++ (rows.step timed).sights rest

end Rows

structure Shelf.Entry where
  value : ByteArray
  expiry : Option Int

/-- A map in which nothing is left of an entry from the instant of its expiry on. -/
abbrev Shelf : Type := String → Option Shelf.Entry

namespace Shelf

variable {β : Type}

def pass (now : Int) (shelf : Shelf) : Shelf := fun key =>
  (shelf key).filter fun entry => !entry.expiry.any (· ≤ now)

def look (shelf : Shelf) (key : String) : Option ByteArray := (shelf key).map Entry.value

def place (shelf : Shelf) (key : String) (entry : Option Entry) : Shelf := fun k =>
  if k = key then entry else shelf k

def perform (now : Int) (shelf : Shelf) : StoreCall β → Shelf
  | .set key value ttl => shelf.place key (some ⟨value, ttl.map fun ttl : Nat => now + ttl⟩)
  | .update key f =>
      match f (shelf.look key) with
      | .ok value => shelf.place key (some ⟨value, none⟩)
      | .error _ => shelf
  | .delete key => shelf.place key none
  | .get _ | .purge => shelf

def sight? (shelf : Shelf) : StoreCall β → Option Sight
  | .get key => some (.got (.ok (shelf.look key)))
  | .update key f =>
      some (.updated (shelf.look key) ((f (shelf.look key)).map fun _ => ()))
  | .set _ _ _ | .delete _ | .purge => none

def step (shelf : Shelf) (timed : Timed) : Shelf :=
  (shelf.pass timed.time).perform timed.time timed.call

def after (shelf : Shelf) (usage : List Timed) : Shelf := usage.foldl step shelf

def sights (shelf : Shelf) : List Timed → List Sight
  | [] => []
  | timed :: rest =>
      ((shelf.pass timed.time).sight? timed.call).toList ++ (shelf.step timed).sights rest

def ofRows (rows : Rows) : Shelf := fun key =>
  (rows.find? key).map fun row => ⟨row.value, row.expiry⟩

theorem pass_pass (shelf : Shelf) {now t : Int} (hle : now ≤ t) :
    (shelf.pass now).pass t = shelf.pass t := by
  funext key
  unfold pass
  rw [Option.filter_filter]
  refine congrArg (Option.filter · (shelf key)) (funext fun entry => ?_)
  cases entry.expiry with
  | none => rfl
  | some expiry => simp; omega

theorem look_pass_place (shelf : Shelf) (t : Int) (key k : String) (value : ByteArray)
    (expiry : Option Int) :
    ((shelf.place key (some ⟨value, expiry⟩)).pass t).look k =
      if k = key then if expiry.all (t < ·) then some value else none
      else (shelf.pass t).look k := by
  unfold look pass place
  split
  case isFalse => rfl
  case isTrue =>
    rw [Option.filter_some]
    cases expiry with
    | none => rfl
    | some expiry => by_cases hlt : t < expiry <;> simp [hlt]

theorem look_pass_erase (shelf : Shelf) (t : Int) (key k : String) :
    ((shelf.place key none).pass t).look k = if k = key then none else (shelf.pass t).look k := by
  unfold look pass place
  split <;> rfl

end Shelf

/-- From the given time on, the same is visible in the rows and on the shelf. -/
def Rows.Agrees (t : Int) (rows : Rows) (shelf : Shelf) : Prop :=
  ∀ t', t ≤ t' → ∀ key, rows.live t' key = (shelf.pass t').look key

namespace Rows.Agrees

variable {β : Type} {now t : Int} {rows : Rows} {shelf : Shelf}

theorem ofRows (rows : Rows) (t : Int) : rows.Agrees t (Shelf.ofRows rows) := by
  intro t' _ key
  unfold live Shelf.look Shelf.pass Shelf.ofRows
  cases rows.find? key with
  | none => rfl
  | some row =>
      obtain ⟨value, expiry⟩ := row
      cases expiry with
      | none => rfl
      | some expiry =>
          by_cases hlt : t' < expiry <;> simp [Option.filter_some, Row.isLive, hlt]

theorem later (h : rows.Agrees t shelf) (hle : t ≤ now) : rows.Agrees now shelf :=
  fun t' hle' key => h t' (Int.le_trans hle hle') key

theorem pass (h : rows.Agrees t shelf) : rows.Agrees t (shelf.pass t) := by
  intro t' hle key
  rw [Shelf.pass_pass shelf hle]
  exact h t' hle key

theorem put (h : rows.Agrees t shelf) (key : String) (value : ByteArray) {ttl : Option Nat}
    (hrange : ∀ ttl' ∈ ttl, InRange (now + ttl')) :
    (rows.put now key value ttl).Agrees t
      (shelf.place key (some ⟨value, ttl.map fun ttl : Nat => now + ttl⟩)) := by
  have hexpiry : ttl.map (expiryAfter now) = ttl.map fun ttl : Nat => now + ttl :=
    Option.map_congr fun ttl' member => expiryAfter_of_inRange (hrange ttl' member)
  intro t' hle k
  rw [live_put, Shelf.look_pass_place, hexpiry, h t' hle k]

theorem erase (h : rows.Agrees t shelf) (key : String) :
    Agrees t (rows.erase key) (shelf.place key none) := by
  intro t' hle k
  rw [live_erase, Shelf.look_pass_erase, h t' hle k]

theorem purge (h : rows.Agrees t shelf) (hle : now ≤ t) : (rows.purge now).Agrees t shelf := by
  intro t' hle' key
  rw [live_purge rows (Int.le_trans hle hle'), h t' hle' key]

theorem perform (h : rows.Agrees now shelf) (hlook : ∀ key, rows.live now key = shelf.look key)
    {call : StoreCall β} (hrange : call.ExpiresInRange now) :
    (call.perform now rows).2.Agrees now (shelf.perform now call) := by
  cases call with
  | get key => exact h
  | set key value ttl =>
      refine h.put key value fun ttl' member => ?_
      obtain rfl := Option.mem_def.mp member
      exact hrange
  | update key f =>
      have hhanded : rows.handed now key = shelf.look key := hlook key
      simp only [StoreCall.perform_update, Shelf.perform, hhanded]
      cases f (shelf.look key) with
      | error error => exact h
      | ok value => exact h.put key value fun _ member => (Option.not_mem_none _ member).elim
  | delete key => exact h.erase key
  | purge => exact h.purge (Int.le_refl now)

theorem sight? (hlook : ∀ key, rows.live now key = shelf.look key) (call : StoreCall β) :
    call.sight? now rows = shelf.sight? call := by
  cases call with
  | get key => exact congrArg (fun value => some (Sight.got (.ok value))) (hlook key)
  | update key f =>
      have hhanded : rows.handed now key = shelf.look key := hlook key
      simp only [StoreCall.sight?, Shelf.sight?, StoreCall.perform_update, hhanded]
      cases f (shelf.look key) <;> rfl
  | set _ _ _ => rfl
  | delete _ => rfl
  | purge => rfl

theorem step (h : rows.Agrees t shelf) {timed : Timed} (hle : t ≤ timed.time)
    (hrange : timed.call.ExpiresInRange timed.time) :
    timed.call.sight? timed.time rows = (shelf.pass timed.time).sight? timed.call ∧
      (rows.step timed).Agrees timed.time (shelf.step timed) := by
  have hlook := h timed.time hle
  exact ⟨sight? hlook timed.call, (h.later hle).pass.perform hlook hrange⟩

end Rows.Agrees

/-- Time does not go back, and no expiry is too late to be kept. -/
structure Orderly (usage : List Timed) : Prop where
  forward : usage.Pairwise fun a b => a.time ≤ b.time
  inRange : ∀ timed ∈ usage, timed.call.ExpiresInRange timed.time

theorem Orderly.tail {timed : Timed} {rest : List Timed} (h : Orderly (timed :: rest)) :
    Orderly rest :=
  ⟨(List.pairwise_cons.mp h.forward).2, fun other member => h.inRange other (.tail _ member)⟩

theorem Orderly.init {earlier later : List Timed} (h : Orderly (earlier ++ later)) :
    Orderly earlier :=
  ⟨(List.pairwise_append.mp h.forward).1,
    fun other member => h.inRange other (List.mem_append_left _ member)⟩

theorem Orderly.start {usage : List Timed} (h : Orderly usage) :
    ∃ t, ∀ timed ∈ usage, t ≤ timed.time := by
  cases usage with
  | nil => exact ⟨0, List.forall_mem_nil _⟩
  | cons timed rest =>
      refine ⟨timed.time, fun other member => ?_⟩
      rcases List.mem_cons.mp member with rfl | member
      · exact Int.le_refl _
      · exact (List.pairwise_cons.mp h.forward).1 other member

theorem Rows.Agrees.run {t : Int} {rows : Rows} {shelf : Shelf} {usage : List Timed}
    (h : rows.Agrees t shelf) (horderly : Orderly usage) (hle : ∀ timed ∈ usage, t ≤ timed.time) :
    rows.sights usage = shelf.sights usage ∧
      ∀ t', t ≤ t' → (∀ timed ∈ usage, timed.time ≤ t') →
        (rows.after usage).Agrees t' (shelf.after usage) := by
  induction usage generalizing t rows shelf with
  | nil => exact ⟨rfl, fun t' hle' _ => h.later hle'⟩
  | cons timed rest ih =>
      have hforward := (List.pairwise_cons.mp horderly.forward).1
      -- the invariant speaks of later times only, so it moves on with the calls
      obtain ⟨hsight, hstep⟩ := h.step (hle timed List.mem_cons_self)
        (horderly.inRange timed List.mem_cons_self)
      obtain ⟨hsights, hafter⟩ := ih hstep horderly.tail hforward
      constructor
      · unfold Rows.sights Shelf.sights
        rw [hsight, hsights]
      · intro t' _ hle'
        exact hafter t' (hle' timed List.mem_cons_self)
          fun other member => hle' other (.tail _ member)

def withoutPurges (usage : List Timed) : List Timed := usage.filter fun timed => !timed.call.isPurge

namespace Shelf

theorem sights_pass (shelf : Shelf) {t : Int} {usage : List Timed}
    (hle : ∀ timed ∈ usage, t ≤ timed.time) :
    (shelf.pass t).sights usage = shelf.sights usage := by
  cases usage with
  | nil => rfl
  | cons timed rest =>
      unfold sights step
      rw [pass_pass shelf (hle timed List.mem_cons_self)]

theorem sights_withoutPurges (shelf : Shelf) {usage : List Timed} (h : Orderly usage) :
    shelf.sights (withoutPurges usage) = shelf.sights usage := by
  induction usage generalizing shelf with
  | nil => rfl
  | cons timed rest ih =>
      obtain ⟨time, call⟩ := timed
      cases call with
      | purge =>
          have hforward := (List.pairwise_cons.mp h.forward).1
          calc shelf.sights (withoutPurges rest)
              _ = shelf.sights rest := ih shelf h.tail
              _ = (shelf.pass time).sights rest := (shelf.sights_pass hforward).symm
      | _ => exact congrArg (_ ++ ·) (ih _ h.tail)

end Shelf

/-- The rows stand the comparison with a shelf that starts out with the same entries. -/
structure Rows.LikeShelf (rows : Rows) (usage : List Timed) : Prop where
  same : rows.sights usage = (Shelf.ofRows rows).sights usage
  /-- What a successful update has written does not expire. -/
  lasting : ∀ earlier now key f later, usage = earlier ++ ⟨now, .update key f⟩ :: later →
    ∀ value, f ((rows.after earlier).handed now key) = .ok value →
      (rows.after (earlier ++ [⟨now, .update key f⟩])).find? key = some ⟨value, none⟩
  /-- A failed update is as good as none. -/
  untouched : ∀ earlier now key f later, usage = earlier ++ ⟨now, .update key f⟩ :: later →
    ∀ error, f ((rows.after earlier).handed now key) = .error error →
      rows.after (earlier ++ [⟨now, .update key f⟩]) = rows.after earlier
  /-- Purges make no difference, wherever they are. -/
  unseen : ∀ other, Orderly other → withoutPurges other = withoutPurges usage →
    rows.sights other = rows.sights usage
  /-- A purge replies with the number of rows that are there but not on the shelf. -/
  counted : ∀ earlier now later, usage = earlier ++ ⟨now, .purge⟩ :: later →
    (StoreCall.purge.perform now (rows.after earlier)).1 =
      .ok ((rows.after earlier).keys.filter fun key =>
        (((Shelf.ofRows rows).after earlier).pass now key).isNone).length

namespace Rows

variable {rows : Rows} {usage : List Timed}

theorem after_snoc (rows : Rows) (usage : List Timed) (timed : Timed) :
    rows.after (usage ++ [timed]) = (rows.after usage).step timed := by
  simp [after]

theorem sights_eq (rows : Rows) (h : Orderly usage) :
    rows.sights usage = (Shelf.ofRows rows).sights usage := by
  obtain ⟨t, hle⟩ := h.start
  exact ((Agrees.ofRows rows t).run h hle).1

theorem agrees_after (rows : Rows) {earlier later : List Timed} {timed : Timed}
    (h : Orderly (earlier ++ timed :: later)) :
    (rows.after earlier).Agrees timed.time ((Shelf.ofRows rows).after earlier) := by
  obtain ⟨t, hle⟩ := h.start
  have hbefore := (List.pairwise_append.mp h.forward).2.2
  refine ((Agrees.ofRows rows t).run h.init ?_).2 timed.time ?_ ?_
  · exact fun other member => hle other (List.mem_append_left _ member)
  · exact hle timed (List.mem_append_right _ List.mem_cons_self)
  · exact fun other member => hbefore other member timed List.mem_cons_self

theorem likeShelf_of_orderly (rows : Rows) (h : Orderly usage) : rows.LikeShelf usage where
  same := rows.sights_eq h
  lasting := by
    intro earlier now key f later _ value hvalue
    rw [after_snoc, step, StoreCall.perform_update, hvalue]
    exact SortedMap.find?_insert_self _ key _
  untouched := by
    intro earlier now key f later _ error herror
    rw [after_snoc, step, StoreCall.perform_update, herror]
  unseen := by
    intro other hother heq
    calc rows.sights other
        _ = (Shelf.ofRows rows).sights (withoutPurges other) :=
          (rows.sights_eq hother).trans (Shelf.sights_withoutPurges _ hother).symm
        _ = (Shelf.ofRows rows).sights (withoutPurges usage) := by rw [heq]
        _ = rows.sights usage :=
          (Shelf.sights_withoutPurges _ h).trans (rows.sights_eq h).symm
  counted := by
    intro earlier now later heq
    subst heq
    have hagrees := rows.agrees_after h now (Int.le_refl now)
    refine congrArg Except.ok ((expiredCount_eq _ now).trans ?_)
    refine congrArg (fun p => (List.filter p _).length) (funext fun key => ?_)
    rw [hagrees key, Shelf.look, Option.isNone_map]

def overwriting : List Timed :=
  [⟨0, .set "a" ⟨#[1]⟩ (some 5)⟩, ⟨4, .get "a"⟩, ⟨5, .get "a"⟩, ⟨5, .purge⟩,
    ⟨6, .update "a" fun value => .ok (value.getD ⟨#[2]⟩)⟩,
    ⟨7, .update "a" fun _ => .error (.internal "refused")⟩, ⟨7, .get "a"⟩]

theorem orderly_overwriting : Orderly overwriting where
  forward := by decide
  inRange := by
    intro timed member
    simp only [overwriting, List.mem_cons, List.not_mem_nil, or_false] at member
    rcases member with rfl | rfl | rfl | rfl | rfl | rfl | rfl
    · exact show InRange (0 + (5 : Nat)) by decide
    all_goals trivial

theorem likeShelf_overwriting :
    Orderly overwriting ∧ LikeShelf SortedMap.empty overwriting ∧
      sights SortedMap.empty overwriting =
        [.got (.ok (some ⟨#[1]⟩)), .got (.ok none), .updated none (.ok ()),
          .updated (some ⟨#[2]⟩) (.error (.internal "refused")), .got (.ok (some ⟨#[2]⟩))] :=
  ⟨orderly_overwriting, likeShelf_of_orderly SortedMap.empty orderly_overwriting, rfl⟩

end Rows
end RunMonitor
