import TabletRoster.Proofs.Following.Coverage

namespace TabletRoster

def Demand.Formed (demand : Demand) : Prop :=
  demand.job.Formed

theorem Demand.formed_of {layout : Layout} {space : Namespace} (tidy : space.Tidy layout)
    {index : Nat} {change : Change} (found : space.published[index]? = some change)
    {demand : Demand} (asks : of? layout change = some demand) : demand.Formed := by
  unfold of? at asks
  split at asks <;> cases asks
  · trivial
  · trivial
  · rename_i path placed
    exact Layout.wellFormed_of_place (tidy.published change (Array.mem_of_getElem? found)) placed

theorem Namespace.published_of_feed {space : Namespace} {position : Nat} {change : Change}
    (next : space.feed position = .change change) :
    space.published[position]? = some change ∧ position + 1 ≤ space.published.size := by
  unfold feed at next
  split at next
  · cases next
  · split at next <;> cases next
    rename_i found
    obtain ⟨inside, _⟩ := Array.getElem?_eq_some_iff.mp found
    exact ⟨found, inside⟩

theorem Namespace.size_of_feed {space : Namespace} {position : Nat}
    (nothing : space.feed position = .nothing) : space.published.size ≤ position := by
  unfold feed at nothing
  split at nothing
  · cases nothing
  · split at nothing
    · cases nothing
    · rename_i absent
      exact Array.getElem?_eq_none_iff.mp absent

theorem Turns.come_demand {σ : Type} (turns : Turns σ) (demand : Demand) :
    turns.come demand.job = (turns.tickets, { turns with
      tickets := turns.tickets + 1
      waiting := turns.waiting ++ [(turns.tickets, demand.job)] }) := by
  cases demand <;> rfl

theorem Demand.harmless (demand : Demand) : ¬ demand.job.Evicts := by
  cases demand <;> exact id

/-- The demands that are queued or held are about well-formed paths. -/
structure Tracking.Formed (tracking : Tracking) : Prop where
  queue : ∀ demand ∈ tracking.queue, demand.Formed
  held : ∀ demand position, tracking.watcher = .sending demand position → demand.Formed

namespace Following

variable {layout : Layout} {turns next : Turns Namespace} {tracking later : Tracking}
  {path : ServerPath}

theorem Covered.grow (covered : Covered layout turns tracking)
    (watcher : later.watcher = tracking.watcher) (working : later.working = tracking.working)
    (queue : ∀ demand ∈ tracking.queue, demand ∈ later.queue) : Covered layout turns later := by
  rcases covered with scheduled | ⟨peaceful, covered⟩
  · apply Or.inl
    cases scheduled with
    | held position sending => exact .held position (watcher ▸ sending)
    | queued member => exact .queued (queue _ member)
    | waiting ticket before after at_work order last =>
      exact .waiting ticket before after (working ▸ at_work) order last
  · refine .inr ⟨peaceful, fun path formed => (covered path formed).imp_right fun coming => ?_⟩
    cases coming with
    | unread position index change demand stands late found asks covers =>
      exact .unread position index change demand (watcher ▸ stands) late found asks covers
    | held demand position sending covers => exact .held demand position (watcher ▸ sending) covers
    | queued demand member covers => exact .queued demand (queue _ member) covers
    | waiting ticket job at_work member covers =>
      exact .waiting ticket job (working ▸ at_work) member covers
    | visiting visits => exact .visiting visits

theorem Covered.send {demand : Demand} {position : Nat} (covered : Covered layout turns tracking)
    (sending : tracking.watcher = .sending demand position) :
    Covered layout turns
      { tracking with queue := tracking.queue ++ [demand], watcher := .reading position } := by
  have stays {other : Demand} (member : other ∈ tracking.queue) : other ∈ tracking.queue ++ [demand] :=
    List.mem_append_left _ member
  have sent {other : Demand} {place : Nat} (holds : tracking.watcher = .sending other place) :
      other ∈ tracking.queue ++ [demand] := by
    rw [sending] at holds
    cases holds
    simp
  rcases covered with scheduled | ⟨peaceful, covered⟩
  · apply Or.inl
    cases scheduled with
    | held place holds => exact .queued (sent holds)
    | queued member => exact .queued (stays member)
    | waiting ticket before after working order last =>
      exact .waiting ticket before after working order last
  · refine .inr ⟨peaceful, fun path formed => (covered path formed).imp_right fun coming => ?_⟩
    cases coming with
    | unread place index change other stands late found asks covers =>
      rw [sending] at stands
      exact .unread place index change other stands late found asks covers
    | held other place holds covers => exact .queued other (sent holds) covers
    | queued other member covers => exact .queued other (stays member) covers
    | waiting ticket job working member covers => exact .waiting ticket job working member covers
    | visiting visits => exact .visiting visits

theorem Covered.take {position : Nat} {change : Change} {watcher : Watcher}
    (covered : Covered layout turns tracking) (reading : tracking.watcher = .reading position)
    (found : turns.space.published[position]? = some change)
    (passed : watcher.position? = some (position + 1))
    (holds : ∀ demand, Demand.of? layout change = some demand →
      watcher = .sending demand (position + 1)) :
    Covered layout turns { tracking with watcher := watcher } := by
  rcases covered with scheduled | ⟨peaceful, covered⟩
  · apply Or.inl
    cases scheduled with
    | held place sending =>
      rw [reading] at sending
      cases sending
    | queued member => exact .queued member
    | waiting ticket before after working order last =>
      exact .waiting ticket before after working order last
  · refine .inr ⟨peaceful, fun path formed => (covered path formed).imp_right fun coming => ?_⟩
    cases coming with
    | unread place index other demand stands late there asks covers =>
      rw [reading] at stands
      cases stands
      by_cases now : index = position
      · subst now
        rw [found] at there
        cases there
        exact .held demand _ (holds demand asks) covers
      · exact .unread _ index other demand passed (by omega) there asks covers
    | held demand place sending covers =>
      rw [reading] at sending
      cases sending
    | queued demand member covers => exact .queued demand member covers
    | waiting ticket job working member covers => exact .waiting ticket job working member covers
    | visiting visits => exact .visiting visits

theorem Covered.come {demand : Demand} {rest : List Demand} (covered : Covered layout turns tracking)
    (queue : tracking.queue = demand :: rest) (free : tracking.working = none)
    (line : next.waiting = turns.waiting ++ [(turns.tickets, demand.job)])
    (current : next.current = turns.current) (roster : next.roster = turns.roster)
    (space : next.space = turns.space) :
    Covered layout next { tracking with queue := rest, working := some turns.tickets } := by
  rcases covered with scheduled | ⟨⟨harmless, peaceful⟩, covered⟩
  · apply Or.inl
    cases scheduled with
    | held position sending => exact .held position sending
    | queued member =>
      rw [queue] at member
      rcases List.mem_cons.mp member with rfl | member
      · exact .waiting turns.tickets turns.waiting [] rfl line (by simp)
      · exact .queued member
    | waiting ticket before after working order last =>
      rw [free] at working
      cases working
  · refine .inr ⟨⟨?_, current ▸ peaceful⟩, fun path formed => ?_⟩
    · intro entry member
      rw [line] at member
      rcases List.mem_append.mp member with old | new
      · exact harmless entry old
      · rw [List.mem_singleton.mp new]
        exact demand.harmless
    · unfold Turns.Right
      rw [roster, space]
      apply (covered path formed).imp_right
      intro coming
      cases coming with
      | unread position index change other stands late found asks covers =>
        exact .unread position index change other stands late (space ▸ found) asks covers
      | held other position sending covers => exact .held other position sending covers
      | queued other member covers =>
        rw [queue] at member
        rcases List.mem_cons.mp member with rfl | member
        · exact .waiting turns.tickets _ rfl (by simp [line]) covers
        · exact .queued other member covers
      | waiting ticket job working member covers =>
        rw [free] at working
        cases working
      | visiting visits =>
        obtain ⟨ticket, stage, delta, at_work, covers⟩ := visits
        exact .visiting ⟨ticket, stage, delta, current ▸ at_work, covers⟩

theorem Covered.done {ticket : Nat} (covered : Covered layout turns tracking)
    (working : tracking.working = some ticket) (absent : ∀ job, (ticket, job) ∉ turns.waiting) :
    Covered layout (turns.collect ticket) { tracking with working := none } := by
  rcases covered with scheduled | ⟨⟨harmless, peaceful⟩, covered⟩
  · apply Or.inl
    cases scheduled with
    | held position sending => exact .held position sending
    | queued member => exact .queued member
    | waiting holder before after at_work order last =>
      rw [working] at at_work
      cases at_work
      exact absurd (by simp [order]) (absent .scan)
  · refine .inr ⟨⟨harmless, peaceful⟩, fun path formed => (covered path formed).imp_right ?_⟩
    intro coming
    cases coming with
    | unread position index change demand stands late found asks covers =>
      exact .unread position index change demand stands late found asks covers
    | held demand position sending covers => exact .held demand position sending covers
    | queued demand member covers => exact .queued demand member covers
    | waiting holder job at_work member covers =>
      rw [working] at at_work
      cases at_work
      exact absurd member (absent job)
    | visiting visits => exact .visiting visits

end Following
end TabletRoster
