import TabletRoster.Coordinator
import TabletRoster.Roster.Basic

/-!
A reconciliation pass brings members and stale paths in line with the coordination namespace,
for every path that is listed or for a single one. It goes from question to question; each
answer is worked into the roster and into the pass's delta.
-/
namespace TabletRoster

/-- What a pass asks next. The paths still to come are given in a pass over a listing. -/
inductive Stage where
  | listing
  | reading (path : ServerPath) (later : Option (List ServerPath))
  | probing (path : ServerPath)
  | deleting (path : ServerPath) (later : Option (List ServerPath))
  | reporting (failure : Option CoordinationError)
  deriving DecidableEq, Repr

/-- The roster together with what the pass has changed so far. -/
structure Work where
  roster : Roster
  delta : Delta

namespace Work

def lose (work : Work) (path : ServerPath) : Work :=
  match work.roster.members[path]? with
  | none => work
  | some member => ⟨work.roster.drop path, work.delta.recordRemoved member.server⟩

def keepListed (work : Work) (listed : PathSet) : Work :=
  let roster := { work.roster with stale := work.roster.stale.retain listed }
  let vanished := roster.members.keys.filter fun path => !listed.contains path
  vanished.foldl lose ⟨roster, work.delta⟩

def forget (work : Work) (path : ServerPath) : Work :=
  { work with roster := { work.roster with stale := work.roster.stale.forget path } }

def join (work : Work) (path : ServerPath) (member : Member) : Work :=
  ⟨{ work.roster with members := work.roster.members.insert path member, cache := none },
    work.delta⟩

/-- The lock of a path has a holder. The same instance only follows a change of its group; any
other instance takes the place of the former one. -/
def hold (work : Work) (path : ServerPath) (holder : Holder) : Work :=
  let work := work.forget path
  let i := holder.instance
  let member : Member := ⟨i, ⟨i.address⟩, holder.group⟩
  match work.roster.members[path]? with
  | none =>
    let work := work.join path member
    { work with delta := work.delta.recordAdded i }
  | some former =>
    if former.server = i then
      if former.group = holder.group then work
      else work.join path { former with group := holder.group }
    else
      let work := work.join path member
      { work with delta := (work.delta.recordRemoved former.server).recordAdded i }

end Work

structure Pass where
  stage : Stage
  delta : Delta

namespace Pass

def scan : Pass := ⟨.listing, .empty⟩

def check (path : ServerPath) : Pass := ⟨.reading path none, .empty⟩

def proceed : Option (List ServerPath) → Stage
  | some (path :: later) => .reading path (some later)
  | _ => .reporting none

def reclaim (now : Nat) (path : ServerPath) (later : Option (List ServerPath)) (work : Work) :
    Stage × Work :=
  let (sight, stale) := work.roster.stale.observe path now
  let work := { work with roster := { work.roster with stale := stale } }
  match sight with
  | .expired _ => (.deleting path later, work)
  | _ => (proceed later, work)

/-- A path has no lock holder. Unless it was just listed, the next question is whether the path
is there at all. -/
def unlocked (now : Nat) (path : ServerPath) (later : Option (List ServerPath)) (work : Work) :
    Stage × Work :=
  let work := work.lose path
  if later.isSome then reclaim now path later work else (.probing path, work)

def ask {σ : Type} (service : Coordinator σ) (now : Nat) (stage : Stage) (work : Work)
    (space : σ) : (Stage × Work) × σ :=
  match stage with
  | .listing =>
    match service.list space with
    | (.error error, space) => ((.reporting (some error), work), space)
    | (.ok listed, space) => ((proceed (some listed.toList), work.keepListed listed), space)
  | .reading path later =>
    match service.readLock path space with
    | (.error (.malformedLock _ _), space) => (unlocked now path later work, space)
    | (.error error, space) => ((.reporting (some error), work), space)
    | (.ok none, space) => (unlocked now path later work, space)
    | (.ok (some holder), space) => ((proceed later, work.hold path holder), space)
  | .probing path =>
    match service.contains path space with
    | (.error error, space) => ((.reporting (some error), work), space)
    | (.ok false, space) => ((.reporting none, work.forget path), space)
    | (.ok true, space) => (reclaim now path none work, space)
  | .deleting path later =>
    match service.delete path space with
    | (.ok (), space) => ((proceed later, work.forget path), space)
    | (.error (.notEmpty _), space) => ((proceed later, work.forget path), space)
    | (.error error, space) => ((.reporting (some error), work), space)
  | .reporting failure => ((.reporting failure, work), space)

end Pass
end TabletRoster
