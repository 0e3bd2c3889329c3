import DocStream.Reclassify

/-! Changing the links of a fragment, seen on its events: each event of a link carries the head of
the changed link, and every other event stays as it is. -/

namespace DocStream

namespace Container

def isInline : Container → Bool
  | paragraph => true
  | format _ => true
  | link _ => true
  | _ => false

def mapHead (change : LinkHead → LinkHead) : Container → Container
  | link h => link (change h)
  | c => c

end Container

namespace Event

def isInline : Event → Bool
  | opening c => c.isInline
  | closing c => c.isInline
  | _ => true

theorem isInline_enclosed {c : Container} {es : List Event} (hc : c.isInline = true)
    (hes : ∀ e ∈ es, e.isInline = true) :
    ∀ e ∈ opening c :: es ++ [closing c], e.isInline = true := by
  simp only [List.forall_mem_append, List.forall_mem_cons]
  exact ⟨⟨hc, hes⟩, hc, List.forall_mem_nil _⟩

def mapHead (change : LinkHead → LinkHead) : Event → Event
  | opening c => opening (c.mapHead change)
  | closing c => closing (c.mapHead change)
  | e => e

end Event

def Link.changedHead (change : Link → Link) (h : LinkHead) : LinkHead := (change ⟨h, []⟩).head

namespace FragmentNode

mutual

theorem isInline_of_mem_events : ∀ (n : FragmentNode), ∀ e ∈ n.events, e.isInline = true
  | paragraph cs => by
    rw [events]
    exact Event.isInline_enclosed rfl (isInline_of_mem_eventsAll cs)
  | format s cs => by
    rw [events]
    exact Event.isInline_enclosed rfl (isInline_of_mem_eventsAll cs)
  | link h cs => by
    rw [events]
    exact Event.isInline_enclosed rfl (isInline_of_mem_eventsAll cs)
  | text s => by simp [events, Event.isInline]
  | lineBreak => by simp [events, Event.isInline]

theorem isInline_of_mem_eventsAll :
    ∀ (ns : List FragmentNode), ∀ e ∈ eventsAll ns, e.isInline = true
  | [] => by simp [eventsAll]
  | n :: ns => by
    rw [eventsAll, List.forall_mem_append]
    exact ⟨isInline_of_mem_events n, isInline_of_mem_eventsAll ns⟩

end

variable (change : Link → Link)

mutual

theorem events_mapLinksFrom : ∀ n : FragmentNode,
    (mapLinksFrom (fun (_ : Unit) l => ((), change l)) () n).2.events =
      n.events.map (Event.mapHead (Link.changedHead change))
  | paragraph cs => by
    simp [mapLinksFrom, events, events_mapAllFrom cs, Event.mapHead, Container.mapHead]
  | format s cs => by
    simp [mapLinksFrom, events, events_mapAllFrom cs, Event.mapHead, Container.mapHead]
  | link h cs => by
    simp [mapLinksFrom, events, events_mapAllFrom cs, Event.mapHead, Container.mapHead,
      Link.changedHead]
  | text s => rfl
  | lineBreak => rfl

theorem events_mapAllFrom : ∀ ns : List FragmentNode,
    eventsAll (mapAllFrom (fun (_ : Unit) l => ((), change l)) () ns).2 =
      (eventsAll ns).map (Event.mapHead (Link.changedHead change))
  | [] => rfl
  | n :: ns => by
    rw [mapAllFrom, eventsAll, eventsAll, List.map_append, events_mapLinksFrom n,
      events_mapAllFrom ns]

end

end FragmentNode

namespace Fragment

theorem isInline_of_mem_events (f : Fragment) : ∀ e ∈ f.events, e.isInline = true :=
  FragmentNode.isInline_of_mem_eventsAll f

theorem events_mapLinks (change : Link → Link) (f : Fragment) :
    (f.mapLinks change).events = f.events.map (Event.mapHead (Link.changedHead change)) :=
  FragmentNode.events_mapAllFrom change f

end Fragment

end DocStream
