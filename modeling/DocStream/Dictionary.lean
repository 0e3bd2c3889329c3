/-! Values under text keys, kept in the order of their keys. A key stands for one value: inserting
it again replaces what it stood for. -/

namespace DocStream

structure Dictionary (α : Type) where
  entries : List (String × α)
  ordered : entries.Pairwise (fun p q => p.1 < q.1)

namespace Dictionary
variable {α : Type}

def insertEntry (k : String) (v : α) : List (String × α) → List (String × α)
  | [] => [(k, v)]
  | (k', v') :: rest =>
    if k < k' then (k, v) :: (k', v') :: rest
    else if k = k' then (k, v) :: rest
    else (k', v') :: insertEntry k v rest

theorem fst_of_mem_insertEntry {k : String} {v : α} {l : List (String × α)} {p : String × α}
    (h : p ∈ insertEntry k v l) : p.1 = k ∨ p ∈ l := by
  induction l with
  | nil => simp_all [insertEntry]
  | cons q l ih =>
    obtain ⟨k', v'⟩ := q
    unfold insertEntry at h
    split at h
    · rcases List.mem_cons.1 h with rfl | h
      · exact .inl rfl
      · exact .inr h
    · split at h
      · rcases List.mem_cons.1 h with rfl | h
        · exact .inl rfl
        · exact .inr (List.mem_cons_of_mem _ h)
      · rcases List.mem_cons.1 h with rfl | h
        · exact .inr (List.mem_cons_self)
        · exact (ih h).imp_right (List.mem_cons_of_mem _)

theorem pairwise_insertEntry {k : String} {v : α} {l : List (String × α)}
    (h : l.Pairwise (fun p q => p.1 < q.1)) :
    (insertEntry k v l).Pairwise (fun p q => p.1 < q.1) := by
  induction l with
  | nil => simp [insertEntry]
  | cons q l ih =>
    obtain ⟨k', v'⟩ := q
    obtain ⟨hq, hl⟩ := List.pairwise_cons.1 h
    unfold insertEntry
    split
    next hk =>
      refine List.pairwise_cons.2 ⟨fun p hp => ?_, h⟩
      rcases List.mem_cons.1 hp with rfl | hp
      · exact hk
      · exact String.lt_trans hk (hq p hp)
    next hk =>
      split
      next he =>
        subst he
        exact List.pairwise_cons.2 ⟨hq, hl⟩
      next he =>
        refine List.pairwise_cons.2 ⟨fun p hp => ?_, ih hl⟩
        rcases fst_of_mem_insertEntry hp with hp | hp
        · rw [hp]
          exact Std.lt_of_le_of_ne (Std.not_lt.1 hk) (Ne.symm he)
        · exact hq p hp

def empty : Dictionary α := ⟨[], .nil⟩

def insert (d : Dictionary α) (k : String) (v : α) : Dictionary α :=
  ⟨insertEntry k v d.entries, pairwise_insertEntry d.ordered⟩

/-- Of pairs with one key the last counts. -/
def ofList (l : List (String × α)) : Dictionary α := l.foldl (fun d p => d.insert p.1 p.2) empty

def get? (d : Dictionary α) (k : String) : Option α := d.entries.lookup k

def isEmpty (d : Dictionary α) : Bool := d.entries.isEmpty

instance : EmptyCollection (Dictionary α) := ⟨empty⟩
instance : Inhabited (Dictionary α) := ⟨empty⟩

theorem ext_entries {d e : Dictionary α} (h : d.entries = e.entries) : d = e := by
  cases d
  cases e
  simp_all

def map {β : Type} (f : α → β) (d : Dictionary α) : Dictionary β :=
  ⟨d.entries.map fun p => (p.1, f p.2), List.pairwise_map.2 d.ordered⟩

theorem lookup_cons_if (key k : String) (v : α) (l : List (String × α)) :
    ((k, v) :: l).lookup key = if key = k then some v else l.lookup key := by
  rw [List.lookup_cons]
  by_cases h : key = k
  · simp [h]
  · rw [if_neg h, beq_eq_false_iff_ne.2 h]

theorem lookup_insertEntry (key k : String) (v : α) (l : List (String × α)) :
    (insertEntry k v l).lookup key = if key = k then some v else l.lookup key := by
  induction l with
  | nil => rw [insertEntry, lookup_cons_if]
  | cons p l ih =>
    obtain ⟨k', v'⟩ := p
    unfold insertEntry
    split
    next => rw [lookup_cons_if]
    next =>
      split
      next heq =>
        subst heq
        simp only [lookup_cons_if]
        split <;> rfl
      next hne =>
        simp only [lookup_cons_if, ih]
        -- The key cannot be both the one inserted and the one passed over.
        split
        next h => rw [if_neg fun h' => hne (h'.symm.trans h)]
        next => rfl

theorem insertEntry_of_forall_lt {k : String} {v : α} {l : List (String × α)}
    (h : ∀ p ∈ l, p.1 < k) : insertEntry k v l = l ++ [(k, v)] := by
  induction l with
  | nil => rfl
  | cons q l ih =>
    rw [List.forall_mem_cons] at h
    have hne : k ≠ q.1 := fun heq => String.lt_irrefl k (heq ▸ h.1)
    rw [insertEntry, if_neg (String.lt_asymm h.1), if_neg hne, ih h.2, List.cons_append]

theorem entries_foldl_insert (d : Dictionary α) (l : List (String × α))
    (h : (d.entries ++ l).Pairwise fun p q => p.1 < q.1) :
    (l.foldl (fun d p => d.insert p.1 p.2) d).entries = d.entries ++ l := by
  induction l generalizing d with
  | nil => simp
  | cons p l ih =>
    have hlast : ∀ q ∈ d.entries, q.1 < p.1 := fun q hq =>
      (List.pairwise_append.1 h).2.2 q hq p List.mem_cons_self
    have hinsert : (d.insert p.1 p.2).entries = d.entries ++ [p] := insertEntry_of_forall_lt hlast
    rw [← List.singleton_append, ← List.append_assoc] at h
    rw [List.foldl_cons, ih _ (hinsert ▸ h), hinsert, List.append_assoc, List.singleton_append]

@[simp] theorem ofList_entries (d : Dictionary α) : ofList d.entries = d :=
  ext_entries (entries_foldl_insert empty d.entries d.ordered)

theorem get?_foldl_insert (key : String) (d : Dictionary α) (l : List (String × α)) :
    (l.foldl (fun d p => d.insert p.1 p.2) d).get? key =
      (l.reverse.lookup key).or (d.get? key) := by
  induction l generalizing d with
  | nil => rfl
  | cons p l ih =>
    have hlast : (d.insert p.1 p.2).get? key = if key = p.1 then some p.2 else d.get? key :=
      lookup_insertEntry key p.1 p.2 d.entries
    rw [List.foldl_cons, ih, hlast, List.reverse_cons, List.lookup_append, Option.or_assoc,
      lookup_cons_if]
    split <;> rfl

theorem get?_ofList (key : String) (l : List (String × α)) :
    (ofList l).get? key = l.reverse.lookup key := by
  rw [ofList, get?_foldl_insert]
  exact Option.or_none

theorem head_le_of_lookup {p q : String × α} {l m : List (String × α)}
    (hm : (q :: m).Pairwise fun p q => p.1 < q.1)
    (h : ∀ k, (p :: l).lookup k = (q :: m).lookup k) : q.1 ≤ p.1 := by
  refine Std.not_lt.1 fun hlt => ?_
  have hnone : (q :: m).lookup p.1 = none := by
    rw [List.lookup_eq_none_iff]
    intro r hr
    have hqr : q.1 ≤ r.1 := by
      obtain rfl | hr := List.mem_cons.1 hr
      · exact Std.le_refl _
      · exact Std.le_of_lt ((List.pairwise_cons.1 hm).1 r hr)
    exact bne_iff_ne.2 fun heq => Std.not_le.2 hlt (heq ▸ hqr)
  rw [← h, lookup_cons_if, if_pos rfl] at hnone
  cases hnone

theorem entries_eq_of_lookup {l m : List (String × α)} (hl : l.Pairwise fun p q => p.1 < q.1)
    (hm : m.Pairwise fun p q => p.1 < q.1) (h : ∀ k, l.lookup k = m.lookup k) : l = m := by
  induction l generalizing m with
  | nil =>
    cases m with
    | nil => rfl
    | cons q m =>
      have hq := h q.1
      rw [lookup_cons_if, if_pos rfl] at hq
      cases hq
  | cons p l ih =>
    cases m with
    | nil =>
      have hp := h p.1
      rw [lookup_cons_if, if_pos rfl] at hp
      cases hp
    | cons q m =>
      -- each list finds the first key of the other
      have hkey : p.1 = q.1 :=
        Std.le_antisymm (head_le_of_lookup hl fun k => (h k).symm) (head_le_of_lookup hm h)
      obtain ⟨k, v⟩ := p
      obtain ⟨k', w⟩ := q
      obtain rfl : k = k' := hkey
      have hvalue := h k
      rw [lookup_cons_if, lookup_cons_if, if_pos rfl, if_pos rfl] at hvalue
      obtain rfl : v = w := Option.some.inj hvalue
      obtain ⟨hpl, hl⟩ := List.pairwise_cons.1 hl
      obtain ⟨hpm, hm⟩ := List.pairwise_cons.1 hm
      refine congrArg _ (ih hl hm fun key => ?_)
      by_cases hk : key = k
      · subst hk
        rw [List.lookup_eq_none_iff.2 fun p hp => ?_, List.lookup_eq_none_iff.2 fun p hp => ?_]
        · exact bne_iff_ne.2 fun heq => String.lt_irrefl _ (heq ▸ hpm p hp)
        · exact bne_iff_ne.2 fun heq => String.lt_irrefl _ (heq ▸ hpl p hp)
      · have hrest := h key
        rwa [lookup_cons_if, lookup_cons_if, if_neg hk, if_neg hk] at hrest

theorem eq_of_get? {d e : Dictionary α} (h : ∀ k, d.get? k = e.get? k) : d = e :=
  ext_entries (entries_eq_of_lookup d.ordered e.ordered h)

instance [DecidableEq α] : DecidableEq (Dictionary α) := fun d e =>
  if h : d.entries = e.entries then isTrue (ext_entries h)
  else isFalse fun he => h (he ▸ rfl)

end Dictionary

end DocStream
