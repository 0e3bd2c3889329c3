import DocStream.Proofs.FragmentTree

/-! How a change gets to the links of a fragment. It is handed each link once, in the order in which
the links begin and without the label, and the stream of the changed fragment is the old one but for
the heads at both ends of every link. -/

namespace DocStream

/-! ### The ends of a container -/

namespace Forest

theorem append_eq_cut {xs ys before rest : List Event} {e : Event}
    (h : xs ++ ys = before ++ e :: rest) :
    (∃ r, xs = before ++ e :: r ∧ rest = r ++ ys) ∨ ∃ b, ys = b ++ e :: rest := by
  rcases List.append_eq_append_iff.1 h with ⟨b, -, hb⟩ | ⟨r, hr, hrest⟩
  · exact .inr ⟨b, hb⟩
  · cases r with
    | nil => exact .inr ⟨[], hrest.symm⟩
    | cons e' r =>
      obtain ⟨rfl, rfl⟩ := List.cons.inj hrest
      exact .inl ⟨r, hr, rfl⟩

mutual

theorem exists_closing_flatten {before rest : List Event} {c : Container} :
    ∀ t : Tree, t.WellFormed → t.flatten = before ++ .opening c :: rest →
      ∃ inner after, Balanced inner ∧ rest = inner ++ .closing c :: after
  | .leaf e, ⟨ho, _⟩, h => by
    have hmem : Event.opening c ∈ [e] := by
      rw [← Tree.flatten, h]
      exact List.mem_append_right before List.mem_cons_self
    rw [← List.mem_singleton.1 hmem] at ho
    cases ho
  | .node o k ts, ⟨_, hk, hts⟩, h => by
    obtain ⟨d, rfl, rfl⟩ := Event.closes_iff.1 hk
    cases before with
    | nil =>
      obtain ⟨hd, rfl⟩ := List.cons.inj h
      cases hd
      exact ⟨Tree.flattenAll ts, [], ⟨ts, hts, rfl⟩, rfl⟩
    | cons e before =>
      obtain ⟨-, h⟩ := List.cons.inj h
      obtain ⟨r, hr, rfl⟩ | ⟨b, hb⟩ := append_eq_cut h
      · obtain ⟨inner, after, hinner, rfl⟩ := exists_closing_flattenAll ts hts hr
        exact ⟨inner, after ++ [.closing d], hinner, by simp⟩
      · have hmem : Event.opening c ∈ [Event.closing d] := by
          rw [hb]
          exact List.mem_append_right b List.mem_cons_self
        cases List.mem_singleton.1 hmem

theorem exists_closing_flattenAll {before rest : List Event} {c : Container} :
    ∀ ts : List Tree, Tree.AllWellFormed ts →
      Tree.flattenAll ts = before ++ .opening c :: rest →
      ∃ inner after, Balanced inner ∧ rest = inner ++ .closing c :: after
  | [], _, h => by simp at h
  | t :: ts, ⟨ht, hts⟩, h => by
    obtain ⟨r, hr, rfl⟩ | ⟨b, hb⟩ := append_eq_cut h
    · obtain ⟨inner, after, hinner, rfl⟩ := exists_closing_flatten t ht hr
      exact ⟨inner, after ++ Tree.flattenAll ts, hinner, by simp⟩
    · exact exists_closing_flattenAll ts hts hb

end

theorem Balanced.exists_closing {es before rest : List Event} {c : Container} (h : Balanced es)
    (hes : es = before ++ .opening c :: rest) :
    ∃ inner after, Balanced inner ∧ rest = inner ++ .closing c :: after := by
  obtain ⟨ts, hts, rfl⟩ := h
  exact exists_closing_flattenAll ts hts hes

end Forest

/-! ### Streams whose links get other heads -/

def Container.isLink : Container → Bool
  | link _ => true
  | _ => false

namespace Event

def begunLink? : Event → Option Link
  | opening (.link h) => some ⟨h, []⟩
  | _ => none

def isOfLink : Event → Bool
  | opening c => c.isLink
  | closing c => c.isLink
  | _ => false

end Event

def begunLinks (es : List Event) : List Link := es.filterMap Event.begunLink?

theorem begunLinks_append (es fs : List Event) :
    begunLinks (es ++ fs) = begunLinks es ++ begunLinks fs := List.filterMap_append

/-- The heads of the links that are still to begin, and of those that are open, innermost first. -/
structure Relinking where
  coming : List LinkHead
  opened : List LinkHead := []

namespace Relinking

/-- A link that begins takes the next head, and the one that ends gives its head back. -/
def step (r : Relinking) : Event → Relinking × Event
  | .opening (.link h) =>
    let k := r.coming.headD h
    (⟨r.coming.tail, k :: r.opened⟩, .opening (.link k))
  | .closing (.link h) => (⟨r.coming, r.opened.tail⟩, .closing (.link (r.opened.headD h)))
  | e => (r, e)

def after (r : Relinking) (es : List Event) : Relinking := es.foldl (fun r e => (r.step e).1) r

def write (r : Relinking) : List Event → List Event
  | [] => []
  | e :: es => (r.step e).2 :: (r.step e).1.write es

theorem after_append (r : Relinking) (es fs : List Event) :
    r.after (es ++ fs) = (r.after es).after fs := List.foldl_append

theorem write_append (r : Relinking) (es fs : List Event) :
    r.write (es ++ fs) = r.write es ++ (r.after es).write fs := by
  induction es generalizing r with
  | nil => rfl
  | cons e es ih => rw [List.cons_append, write, write, ih, List.cons_append, after, after,
      List.foldl_cons]

@[simp] theorem length_write (r : Relinking) (es : List Event) :
    (r.write es).length = es.length := by
  induction es generalizing r with
  | nil => rfl
  | cons e es ih => rw [write, List.length_cons, ih, List.length_cons]

theorem getElem?_write (r : Relinking) (es : List Event) (i : Nat) :
    (r.write es)[i]? = es[i]?.map fun e => ((r.after (es.take i)).step e).2 := by
  induction es generalizing r i with
  | nil => rfl
  | cons e es ih =>
    cases i with
    | zero => rfl
    | succ i => exact ih (r.step e).1 i

theorem getElem?_write_cut (r : Relinking) (before rest : List Event) (e : Event) :
    (r.write (before ++ e :: rest))[before.length]? = some ((r.after before).step e).2 := by
  rw [getElem?_write, List.getElem?_append_right (Nat.le_refl _), Nat.sub_self,
    List.take_left' rfl]
  rfl

theorem step_of_not_isOfLink (r : Relinking) {e : Event} (h : e.isOfLink = false) :
    r.step e = (r, e) := by
  cases e with
  | opening c =>
    cases c with
    | link l => cases h
    | _ => rfl
  | closing c =>
    cases c with
    | link l => cases h
    | _ => rfl
  | text s => rfl
  | lineBreak => rfl

theorem coming_step (r : Relinking) (e : Event) :
    (r.step e).1.coming = r.coming.drop (begunLinks [e]).length := by
  cases e with
  | opening c =>
    cases c with
    | link l => exact List.drop_one.symm
    | _ => rfl
  | closing c => cases c <;> rfl
  | text s => rfl
  | lineBreak => rfl

theorem coming_after (r : Relinking) (es : List Event) :
    (r.after es).coming = r.coming.drop (begunLinks es).length := by
  induction es generalizing r with
  | nil => rfl
  | cons e es ih =>
    show ((r.step e).1.after es).coming = _
    rw [ih, coming_step, List.drop_drop, ← List.length_append, ← begunLinks_append,
      List.singleton_append]

mutual

theorem opened_after_flatten (r : Relinking) :
    ∀ t : Tree, t.WellFormed → (r.after t.flatten).opened = r.opened
  | .leaf e, ⟨ho, hc⟩ => by
    cases e with
    | opening c => cases ho
    | closing c => cases hc
    | text s => rfl
    | lineBreak => rfl
  | .node o k ts, ⟨_, hk, hts⟩ => by
    obtain ⟨c, rfl, rfl⟩ := Event.closes_iff.1 hk
    have hinner := opened_after_flattenAll (r.step (.opening c)).1 ts hts
    rw [Tree.flatten, after_append]
    show (((r.step (.opening c)).1.after (Tree.flattenAll ts)).step (.closing c)).1.opened = _
    cases c with
    | link h =>
      show ((r.step (.opening (.link h))).1.after (Tree.flattenAll ts)).opened.tail = _
      rw [hinner]
      rfl
    | _ => exact hinner

theorem opened_after_flattenAll (r : Relinking) :
    ∀ ts : List Tree, Tree.AllWellFormed ts → (r.after (Tree.flattenAll ts)).opened = r.opened
  | [], _ => rfl
  | t :: ts, ⟨ht, hts⟩ => by
    rw [Tree.flattenAll, after_append, opened_after_flattenAll _ ts hts,
      opened_after_flatten r t ht]

end

theorem opened_after_balanced (r : Relinking) {es : List Event} (h : Forest.Balanced es) :
    (r.after es).opened = r.opened := by
  obtain ⟨ts, hts, rfl⟩ := h
  exact r.opened_after_flattenAll ts hts

end Relinking

/-- The second stream is the first one, with new heads on its links in the order in which they
begin: a link carries its head at both of its ends, and every other event stays where it is. -/
structure Relinked (heads : List LinkHead) (es fs : List Event) : Prop where
  length_eq : fs.length = es.length
  other : ∀ (i : Nat) (e : Event), es[i]? = some e → e.isOfLink = false → fs[i]? = some e
  link : ∀ (before : List Event) (h : LinkHead) (rest : List Event),
    es = before ++ .opening (.link h) :: rest →
    ∃ inner after k, Forest.Balanced inner ∧ rest = inner ++ .closing (.link h) :: after ∧
      heads[(begunLinks before).length]? = some k ∧
      fs[before.length]? = some (.opening (.link k)) ∧
      fs[before.length + 1 + inner.length]? = some (.closing (.link k))

theorem Relinking.relinked_write {heads : List LinkHead} {es : List Event}
    (hlength : heads.length = (begunLinks es).length) (hes : Forest.Balanced es) :
    Relinked heads es (write ⟨heads, []⟩ es) where
  length_eq := length_write _ es
  other i e he hother := by rw [getElem?_write, he, Option.map_some, step_of_not_isOfLink _ hother]
  link before h rest hcut := by
    obtain ⟨inner, after, hinner, rfl⟩ := hes.exists_closing hcut
    let r : Relinking := Relinking.after ⟨heads, []⟩ before
    have hlt : (begunLinks before).length < heads.length := by
      rw [hlength, hcut, begunLinks_append, List.length_append]
      exact Nat.lt_add_of_pos_right (Nat.succ_pos _)
    have hcoming : r.coming.headD h = heads[(begunLinks before).length] := by
      rw [coming_after, List.headD_eq_head?_getD, List.head?_drop, List.getElem?_eq_getElem hlt]
      rfl
    refine ⟨inner, after, _, hinner, rfl, List.getElem?_eq_getElem hlt, ?_, ?_⟩
    · rw [hcut, getElem?_write_cut, ← hcoming]
      rfl
    · -- All that was opened behind the link is closed again, so its own head is on top.
      have hopened := opened_after_balanced (r.step (.opening (.link h))).1 hinner
      have hcut' : es = (before ++ .opening (.link h) :: inner) ++ .closing (.link h) :: after := by
        rw [hcut, List.append_assoc, List.cons_append]
      have hlen : before.length + 1 + inner.length =
          (before ++ Event.opening (.link h) :: inner).length := by
        rw [List.length_append, List.length_cons]
        omega
      rw [hlen, hcut', getElem?_write_cut, after_append, ← hcoming]
      show some (Event.closing (.link
        (((r.step (.opening (.link h))).1.after inner).opened.headD h))) = _
      rw [hopened]
      rfl

/-! ### Changes that keep a record -/

def Link.recording {σ : Type} (change : σ → Link → σ × Link) :
    σ × List (Link × Link) → Link → (σ × List (Link × Link)) × Link
  | (s, log), l => (((change s l).1, log ++ [(l, (change s l).2)]), (change s l).2)

structure Recorded (seen : List (Link × Link)) (es fs : List Event) : Prop where
  given : seen.map Prod.fst = begunLinks es
  after (coming opened : List LinkHead) :
    Relinking.after ⟨seen.map (·.2.head) ++ coming, opened⟩ es = ⟨coming, opened⟩
  write (coming opened : List LinkHead) :
    Relinking.write ⟨seen.map (·.2.head) ++ coming, opened⟩ es = fs

namespace Recorded

variable {seen : List (Link × Link)} {es fs : List Event}

theorem nil : Recorded [] [] [] := ⟨rfl, fun _ _ => rfl, fun _ _ => rfl⟩

theorem append {seen' : List (Link × Link)} {es' fs' : List Event} (h : Recorded seen es fs)
    (h' : Recorded seen' es' fs') : Recorded (seen ++ seen') (es ++ es') (fs ++ fs') where
  given := by rw [List.map_append, h.given, h'.given, begunLinks_append]
  after coming opened := by
    rw [List.map_append, List.append_assoc, Relinking.after_append, h.after, h'.after]
  write coming opened := by
    rw [List.map_append, List.append_assoc, Relinking.write_append, h.after, h.write, h'.write]

theorem single {e : Event} (h : e.isOfLink = false) : Recorded [] [e] [e] where
  given := by
    cases e with
    | opening c =>
      cases c with
      | link l => cases h
      | _ => rfl
    | _ => rfl
  after coming opened := congrArg Prod.fst (Relinking.step_of_not_isOfLink _ h)
  write coming opened := by rw [Relinking.write, Relinking.step_of_not_isOfLink _ h]; rfl

theorem enclosed {c : Container} (h : Recorded seen es fs) (hc : c.isLink = false) :
    Recorded seen (.opening c :: es ++ [.closing c]) (.opening c :: fs ++ [.closing c]) := by
  have hopening : Recorded [] [Event.opening c] [Event.opening c] := single hc
  have hboth := (hopening.append h).append (single (e := .closing c) hc)
  rwa [List.nil_append, List.append_nil] at hboth

theorem link (h : Recorded seen es fs) (head : LinkHead) (l : Link) :
    Recorded ((⟨head, []⟩, l) :: seen) (.opening (.link head) :: es ++ [.closing (.link head)])
      (.opening (.link l.head) :: fs ++ [.closing (.link l.head)]) where
  given := by
    have hclosing : begunLinks [Event.closing (.link head)] = [] := rfl
    show _ = ⟨head, []⟩ :: begunLinks (es ++ [.closing (.link head)])
    rw [begunLinks_append, hclosing, List.append_nil, ← h.given, List.map_cons]
  after coming opened := by
    show Relinking.after ⟨seen.map (·.2.head) ++ coming, l.head :: opened⟩
      (es ++ [.closing (.link head)]) = _
    rw [Relinking.after_append, h.after]
    rfl
  write coming opened := by
    show Event.opening (.link l.head) :: Relinking.write
      ⟨seen.map (·.2.head) ++ coming, l.head :: opened⟩ (es ++ [.closing (.link head)]) = _
    rw [Relinking.write_append, h.write, h.after]
    rfl

end Recorded

namespace FragmentNode

variable {σ : Type} (change : σ → Link → σ × Link)

mutual

theorem exists_recorded_node (s : σ) (log : List (Link × Link)) :
    ∀ n : FragmentNode, ∃ seen,
      mapLinksFrom (Link.recording change) (s, log) n =
        (((mapLinksFrom change s n).1, log ++ seen), (mapLinksFrom change s n).2) ∧
      Recorded seen n.events (mapLinksFrom change s n).2.events
  | paragraph cs => by
    obtain ⟨seen, hrun, hseen⟩ := exists_recorded s log cs
    exact ⟨seen, by simp only [mapLinksFrom, hrun], hseen.enclosed rfl⟩
  | format style cs => by
    obtain ⟨seen, hrun, hseen⟩ := exists_recorded s log cs
    exact ⟨seen, by simp only [mapLinksFrom, hrun], hseen.enclosed rfl⟩
  | link h cs => by
    let l : Link := (change s ⟨h, []⟩).2
    obtain ⟨seen, hrun, hseen⟩ :=
      exists_recorded (change s ⟨h, []⟩).1 (log ++ [(⟨h, []⟩, l)]) cs
    refine ⟨(⟨h, []⟩, l) :: seen, ?_, hseen.link h l⟩
    simp only [mapLinksFrom, Link.recording, hrun, List.append_assoc, List.singleton_append, l]
  | text t => ⟨[], by rw [List.append_nil]; rfl, .single rfl⟩
  | lineBreak => ⟨[], by rw [List.append_nil]; rfl, .single rfl⟩

theorem exists_recorded (s : σ) (log : List (Link × Link)) :
    ∀ ns : List FragmentNode, ∃ seen,
      mapAllFrom (Link.recording change) (s, log) ns =
        (((mapAllFrom change s ns).1, log ++ seen), (mapAllFrom change s ns).2) ∧
      Recorded seen (eventsAll ns) (eventsAll (mapAllFrom change s ns).2)
  | [] => ⟨[], by rw [List.append_nil]; rfl, .nil⟩
  | n :: ns => by
    obtain ⟨seen, hrun, hseen⟩ := exists_recorded_node s log n
    obtain ⟨more, hruns, hmore⟩ :=
      exists_recorded (mapLinksFrom change s n).1 (log ++ seen) ns
    refine ⟨seen ++ more, ?_, hseen.append hmore⟩
    simp only [mapAllFrom, hrun, hruns, List.append_assoc]

end

variable (label : σ → Link → Fragment)

mutual

theorem mapLinksFrom_relabel (s : σ) : ∀ n : FragmentNode,
    mapLinksFrom (fun s l => ((change s l).1, ⟨(change s l).2.head, label s l⟩)) s n =
      mapLinksFrom change s n
  | paragraph cs => by simp only [mapLinksFrom, mapAllFrom_relabel s cs]
  | format style cs => by simp only [mapLinksFrom, mapAllFrom_relabel s cs]
  | link h cs => by simp only [mapLinksFrom, mapAllFrom_relabel (change s ⟨h, []⟩).1 cs]
  | text t => rfl
  | lineBreak => rfl

theorem mapAllFrom_relabel (s : σ) : ∀ ns : List FragmentNode,
    mapAllFrom (fun s l => ((change s l).1, ⟨(change s l).2.head, label s l⟩)) s ns =
      mapAllFrom change s ns
  | [] => rfl
  | n :: ns => by
    simp only [mapAllFrom, mapLinksFrom_relabel s n,
      mapAllFrom_relabel (mapLinksFrom change s n).1 ns]

end

end FragmentNode

namespace Fragment
open FragmentNode

/-- The record tells which links the change is handed and which it returns; the labels it returns
make no difference. -/
theorem mapLinksFrom_relinks {σ : Type} (change : σ → Link → σ × Link) (s : σ) (f : Fragment) :
    (∃ log : List (Link × Link),
      f.mapLinksFrom (Link.recording change) (s, []) =
        (((f.mapLinksFrom change s).1, log), (f.mapLinksFrom change s).2) ∧
      log.map Prod.fst = begunLinks f.events ∧
      Relinked (log.map (·.2.head)) f.events (f.mapLinksFrom change s).2.events) ∧
    ∀ label : σ → Link → Fragment,
      f.mapLinksFrom (fun s l => ((change s l).1, ⟨(change s l).2.head, label s l⟩)) s =
        f.mapLinksFrom change s := by
  refine ⟨?_, fun label => mapAllFrom_relabel change label s f⟩
  obtain ⟨log, hrun, hlog⟩ := exists_recorded change s [] f
  have hwrite := hlog.write [] []
  rw [List.append_nil] at hwrite
  have hstream : (f.mapLinksFrom change s).2.events =
      Relinking.write ⟨log.map (·.2.head), []⟩ f.events := hwrite.symm
  have hlength : (log.map (·.2.head)).length = (begunLinks f.events).length := by
    rw [events, ← hlog.given, List.length_map, List.length_map]
  refine ⟨log, hrun, hlog.given, ?_⟩
  rw [hstream]
  exact Relinking.relinked_write hlength (balanced_eventsAll f)

example :
    let head (target : String) : LinkHead := { reference := { kind := .url, target } }
    let f : Fragment :=
      [.paragraph [.link (head "a") [.text "x", .link (head "b") []], .link (head "c") []]]
    let number (n : Nat) (l : Link) : Nat × Link :=
      (n + 1, ⟨head (toString n ++ l.head.reference.target), [.lineBreak]⟩)
    f.mapLinksFrom number 0 =
      (3, [.paragraph [.link (head "0a") [.text "x", .link (head "1b") []],
        .link (head "2c") []]]) := by rfl

end Fragment

end DocStream
