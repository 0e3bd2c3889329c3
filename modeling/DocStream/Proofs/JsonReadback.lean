import DocStream.Proofs.JsonPrinting

/-! Values read back from their texts, whatever the layout. A reader gives an object with its
members in the order of their keys and keeps all else, as long as the numbers are machine words and
the brackets do not nest too deep for it. -/

namespace DocStream.Json

mutual

/-- The value with the members of every object in the order of their keys; of members with one key
the last counts. -/
def sorted : Json → Json
  | .array items => .array (sortedItems items)
  | .object members => .object (Dictionary.ofList (sortedMembers members)).entries
  | .null => .null
  | .bool b => .bool b
  | .number n => .number n
  | .string s => .string s

def sortedItems : List Json → List Json
  | [] => []
  | v :: vs => v.sorted :: sortedItems vs

def sortedMembers : List (String × Json) → List (String × Json)
  | [] => []
  | (k, v) :: ms => (k, v.sorted) :: sortedMembers ms

end

theorem sortedItems_eq_map (items : List Json) : sortedItems items = items.map sorted := by
  induction items with
  | nil => rfl
  | cons v vs ih => rw [sortedItems, ih, List.map_cons]

theorem sortedMembers_eq_map (members : List (String × Json)) :
    sortedMembers members = members.map fun m => (m.1, m.2.sorted) := by
  induction members with
  | nil => rfl
  | cons m ms ih => rw [sortedMembers, ih, List.map_cons]

/-- A value without fractions and with numbers that are machine words, whose brackets nest less than
`depth` deep. -/
inductive Fits : (depth : Nat) → Json → Prop where
  | null (depth : Nat) : Fits (depth + 1) .null
  | bool (depth : Nat) (b : Bool) : Fits (depth + 1) (.bool b)
  | word (depth : Nat) {n : Nat} (h : n ≤ Reader.maxWord) : Fits (depth + 1) (.number (.integer n))
  | string (depth : Nat) (s : String) : Fits (depth + 1) (.string s)
  | array {depth : Nat} {items : List Json} (h : ∀ v ∈ items, Fits (depth + 1) v) :
    Fits (depth + 2) (.array items)
  | object {depth : Nat} {members : List (String × Json)}
      (h : ∀ m ∈ members, Fits (depth + 1) m.2) : Fits (depth + 2) (.object members)

namespace Reader

/-! ### Single values -/

theorem value_blank {ws : List Char} (hws : Blank ws) {c : Char} (hc : isSpace c = false)
    (depth : Nat) (cs : List Char) (offset : Nat) :
    value (depth + 1) ⟨ws ++ c :: cs, offset⟩ =
      value (depth + 1) ⟨c :: cs, offset + ws.length⟩ := by
  rw [value, bind_of_ok (peekToken_blank hws hc cs offset),
    bind_of_ok (peekToken_cons hc cs (offset + ws.length))]

theorem reads_value_null (depth : Nat) : Reads (value (depth + 1)) .null (.ok .null) := by
  intro text htext ws rest offset hws hrest
  cases htext
  change Ends _ _ (value (depth + 1) ⟨ws ++ 'n' :: 'u' :: 'l' :: 'l' :: rest, offset⟩)
  rw [value_blank hws (by decide)]
  exact .ok _ _

theorem reads_value_bool (b : Bool) (depth : Nat) :
    Reads (value (depth + 1)) (.bool b) (.ok (.bool b)) := by
  intro text htext ws rest offset hws hrest
  cases htext
  cases b with
  | true =>
    change Ends _ _ (value (depth + 1) ⟨ws ++ 't' :: 'r' :: 'u' :: 'e' :: rest, offset⟩)
    rw [value_blank hws (by decide)]
    exact .ok _ _
  | false =>
    change Ends _ _ (value (depth + 1) ⟨ws ++ 'f' :: 'a' :: 'l' :: 's' :: 'e' :: rest, offset⟩)
    rw [value_blank hws (by decide)]
    exact .ok _ _

theorem value_digit {d : Char} (hd : d.isDigit = true) (depth : Nat) (cs : List Char)
    (offset : Nat) :
    value (depth + 1) ⟨d :: cs, offset⟩ =
      (do return .number (← number false) : Reader Json) ⟨d :: cs, offset⟩ := by
  rw [value, bind_of_ok (peekToken_cons (isSpace_of_isDigit hd) cs offset)]
  refine congrFun (g := (do return .number (← number false) : Reader Json)) ?_ _
  split
  next h => cases h
  -- None of the seven marks that a value can begin with is a digit.
  iterate 7
    next h =>
      cases h
      cases hd
  next c _ _ _ _ _ _ _ h =>
    obtain rfl : d = c := Option.some.inj h
    exact if_pos hd

theorem reads_value_word {n : Nat} (hn : n ≤ maxWord) (depth : Nat) :
    Reads (value (depth + 1)) (.number (.integer n)) (.ok (.number (.integer n))) := by
  intro text htext ws rest offset hws hrest
  cases htext
  obtain ⟨d, ds, hds⟩ := List.exists_cons_of_ne_nil (Nat.toDigits_ne_nil (n := n) (b := 10))
  have hd : d.isDigit = true :=
    Nat.isDigit_of_mem_toDigits (by decide) (by decide) (hds ▸ List.mem_cons_self)
  obtain ⟨offset', hnumber⟩ := number_toDigits hn hrest (offset + ws.length)
  rw [numberText_natCast]
  rw [hds, List.cons_append] at hnumber ⊢
  rw [value_blank hws (isSpace_of_isDigit hd), value_digit hd, bind_of_ok hnumber]
  exact .ok _ offset'

theorem value_list {ws : List Char} (hws : Blank ws) (depth : Nat) (cs : List Char)
    (offset : Nat) :
    value (depth + 2) ⟨ws ++ '[' :: cs, offset⟩ =
      (do let items ← elements (value (depth + 1)); skip; return .array items : Reader Json)
        ⟨cs, offset + ws.length + '['.utf8Size⟩ := by
  rw [value_blank hws (by decide), value,
    bind_of_ok (peekToken_cons (by decide) cs (offset + ws.length))]
  rfl

theorem reads_value_array {items : List Json} {depth : Nat}
    (hitems : ∀ v ∈ items, Reads (value (depth + 1)) v (.ok v.sorted)) :
    Reads (value (depth + 2)) (.array items) (.ok (.array (items.map sorted))) := by
  have hreads : List.Forall₂ (Reads (value (depth + 1))) items (items.map fun v => .ok v.sorted) :=
    List.forall₂_map_right_iff.2 (List.forall₂_same.2 hitems)
  have hresults : (items.map fun v => (.ok v.sorted : Except Cause Json)).mapM id =
      .ok (items.map sorted) := by
    rw [List.mapM_map]
    exact List.mapM_pure
  intro text htext ws rest offset hws hrest
  cases htext with
  | @array _ texts body htexts hbody =>
    obtain ⟨fuel, hfuel⟩ := exists_fuel hbody (begins_of_layouts htexts) (']' :: rest)
    have hends := ends_elementsFrom (yields_of_layouts hreads htexts) (begins_of_layouts htexts)
      hbody fuel rest (offset + ws.length + '['.utf8Size)
    rw [← hfuel, hresults] at hends
    simp only [List.cons_append, List.append_assoc, List.nil_append]
    rw [value_list hws]
    exact hends.map (g := Json.array) fun vs offset' =>
      ⟨_, bind_of_ok (f := fun _ => pure (Json.array vs)) (skip_cons ']' rest offset')⟩

theorem value_map {ws : List Char} (hws : Blank ws) (depth : Nat) (cs : List Char)
    (offset : Nat) :
    value (depth + 2) ⟨ws ++ '\x7b' :: cs, offset⟩ =
      (do
        let ms ← members (value (depth + 1))
        skip
        return .object (Dictionary.ofList ms).entries : Reader Json)
        ⟨cs, offset + ws.length + '\x7b'.utf8Size⟩ := by
  rw [value_blank hws (by decide), value,
    bind_of_ok (peekToken_cons (by decide) cs (offset + ws.length))]
  rfl

theorem reads_value_object {ms : List (String × Json)} {depth : Nat}
    (hms : ∀ m ∈ ms, Reads (value (depth + 1)) m.2 (.ok m.2.sorted)) :
    Reads (value (depth + 2)) (.object ms) (.ok (Json.object ms).sorted) := by
  have hresults : ms.mapM (fun m => (Except.ok m.2.sorted : Except Cause Json).map (m.1, ·)) =
      .ok (sortedMembers ms) := by
    rw [sortedMembers_eq_map]
    exact List.mapM_pure
  intro text htext ws rest offset hws hrest
  cases htext with
  | @object _ texts body htexts hbody =>
    obtain ⟨fuel, hfuel⟩ := exists_fuel hbody (begins_of_members htexts) ('\x7d' :: rest)
    have hends := ends_membersFrom (f := fun v => .ok v.sorted) hms htexts hbody fuel rest
      (offset + ws.length + '\x7b'.utf8Size)
    rw [← hfuel, hresults] at hends
    simp only [List.cons_append, List.append_assoc, List.nil_append]
    rw [value_map hws]
    exact hends.map (g := fun ms => Json.object (Dictionary.ofList ms).entries) fun ms offset' =>
      ⟨_, bind_of_ok (f := fun _ => pure (Json.object (Dictionary.ofList ms).entries))
        (skip_cons '\x7d' rest offset')⟩

/-! ### Nested values and whole texts -/

theorem reads_value {depth : Nat} {v : Json} (h : v.Fits depth) :
    Reads (value depth) v (.ok v.sorted) := by
  induction h with
  | null depth => exact reads_value_null depth
  | bool depth b => exact reads_value_bool b depth
  | word depth hn => exact reads_value_word hn depth
  | string depth s => exact reads_value_string s depth
  | @array depth items h ih =>
    rw [sorted, sortedItems_eq_map]
    exact reads_value_array ih
  | object h ih => exact reads_value_object ih

end Reader

def read (text : String) : Except Fault Json :=
  (do
    let v ← Reader.value 128
    Reader.finish
    return v : Reader Json) ⟨text.toList, 0⟩ |>.map Prod.fst

theorem read_of_writtenAs {v : Json} {text : String} (hv : v.Fits 128) (htext : v.WrittenAs text) :
    read text = .ok v.sorted := by
  obtain ⟨ws, body, ws', hws, hbody, hws', htext⟩ := htext
  have hdelimited : Delimited (ws' ++ []) := delimited_blank_append hws' nofun
  rw [List.append_nil] at hdelimited
  have hvalue := Reader.reads_value hv body hbody ws ws' 0 hws hdelimited
  obtain ⟨offset, hvalue⟩ := hvalue.exists_ok
  rw [read, htext, Reader.bind_of_ok hvalue, Reader.bind_of_ok (Reader.finish_blank hws' offset)]
  rfl

end DocStream.Json
