import Std.Data.ExtTreeMap
import TabletRoster.Text.Utf8

/-!
What is relied on in a key-value store with leases: its entries are ordered by the bytes of their
keys, an entry knows the lease that owns it, a created entry is younger than all that are there, and
an entry that is written again keeps its age.
-/
namespace TabletRoster.Keys

structure Entry where
  value : Bytes
  lease : Int64
  version : Nat
  created : Nat
  modified : Nat
  deriving DecidableEq, Repr

abbrev Entries := Std.ExtTreeMap Bytes Entry compare

def below (stem : Bytes) (entries : Entries) : List (Bytes × Entry) :=
  entries.toList.filter fun (key, _) => stem.isPrefixOf key

def oldest : List (Bytes × Entry) → Option (Bytes × Entry)
  | [] => none
  | entry :: rest =>
    match oldest rest with
    | some other => if other.2.created < entry.2.created then some other else some entry
    | none => some entry

/-- What a key holds that has been written over the entries that were there. -/
structure Written (before : Entries) (key value : Bytes) (lease : Int64) (entry : Entry) :
    Prop where
  value : entry.value = value
  lease : entry.lease = lease
  kept : ∀ former : Entry, before[key]? = some former → entry.created = former.created
  young : before[key]? = none → ∀ (other : Bytes) (old : Entry), before[other]? = some old →
    old.created < entry.created

/-- A key-value store whose states are of type `σ`. -/
class Engine (σ : Type) where
  empty : σ
  entries : σ → Entries
  put (key value : Bytes) (lease : Int64) : σ → σ
  remove (key : Bytes) : σ → σ
  removeBelow (stem : Bytes) : σ → σ
  /-- So many revisions go to keys that are of no concern. -/
  skip (revisions : Nat) : σ → σ
  entries_empty : entries empty = ∅
  entries_put (key value : Bytes) (lease : Int64) (store : σ) : ∃ entry,
    Written (entries store) key value lease entry ∧
      entries (put key value lease store) = (entries store).insert key entry
  entries_remove (key : Bytes) (store : σ) :
    entries (remove key store) = (entries store).erase key
  entries_removeBelow (stem : Bytes) (store : σ) (key : Bytes) :
    (entries (removeBelow stem store))[key]? =
      if stem <+: key then none else (entries store)[key]?
  entries_skip (revisions : Nat) (store : σ) : entries (skip revisions store) = entries store

end TabletRoster.Keys
