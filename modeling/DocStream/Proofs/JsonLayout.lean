import DocStream.Proofs.JsonSteps
import Mathlib.Data.List.Forall2

/-! JSON texts with white space at will between the tokens. What a reader makes of a value is the
same for every layout of it: a list or an object is read item by item, and the first item refused is
the fault of the whole. -/

namespace DocStream.Json

/-! ### Layouts -/

/-- What stands between two brackets: texts set apart by commas. A comma stands ahead of all but the
`first`. -/
inductive Row : (first : Bool) → List (List Char) → List Char → Prop where
  | close {first : Bool} {ws : List Char} (hws : Blank ws) : Row first [] ws
  | first {ws text cs : List Char} {texts : List (List Char)} (hws : Blank ws)
      (h : Row false texts cs) : Row true (text :: texts) (ws ++ (text ++ cs))
  | next {ws ws' text cs : List Char} {texts : List (List Char)} (hws : Blank ws) (hws' : Blank ws')
      (h : Row false texts cs) : Row false (text :: texts) (ws ++ ',' :: (ws' ++ (text ++ cs)))

inductive Member (R : Json → List Char → Prop) : String × Json → List Char → Prop where
  | mk (key : String) {v : Json} {ws ws' text : List Char} (hws : Blank ws) (hws' : Blank ws')
      (h : R v text) : Member R (key, v) (stringText key ++ (ws ++ ':' :: (ws' ++ text)))

/-- A text of a value, whatever white space it holds between the tokens. -/
inductive Layout : Json → List Char → Prop where
  | null : Layout .null "null".toList
  | bool (b : Bool) : Layout (.bool b) (if b then "true".toList else "false".toList)
  | number (n : JsonNumber) : Layout (.number n) (numberText n)
  | string (s : String) : Layout (.string s) (stringText s)
  | array {items : List Json} {texts : List (List Char)} {body : List Char}
      (hitems : List.Forall₂ Layout items texts) (hbody : Row true texts body) :
    Layout (.array items) ('[' :: (body ++ [']']))
  | object {members : List (String × Json)} {texts : List (List Char)} {body : List Char}
      (hmembers : List.Forall₂ (Member Layout) members texts) (hbody : Row true texts body) :
    Layout (.object members) ('\x7b' :: (body ++ ['\x7d']))

def WrittenAs (v : Json) (text : String) : Prop :=
  ∃ ws body ws', Blank ws ∧ Layout v body ∧ Blank ws' ∧ text.toList = ws ++ (body ++ ws')

def Begins (text : List Char) : Prop :=
  ∃ c cs, text = c :: cs ∧ Reader.isSpace c = false ∧ c ≠ ']'

theorem begins_cons {c : Char} (hspace : Reader.isSpace c = false) (hbracket : c ≠ ']')
    (cs : List Char) : Begins (c :: cs) := ⟨c, cs, rfl, hspace, hbracket⟩

theorem begins_stringText (s : String) : Begins (stringText s) :=
  begins_cons (by decide) (by decide) _

theorem begins_of_isDigit {c : Char} (h : c.isDigit = true) (cs : List Char) : Begins (c :: cs) :=
  begins_cons (Reader.isSpace_of_isDigit h) (by rintro rfl; cases h) cs

theorem begins_toDigits (n : Nat) : Begins (Nat.toDigits 10 n) := by
  obtain ⟨d, ds, hds⟩ := List.exists_cons_of_ne_nil (Nat.toDigits_ne_nil (n := n) (b := 10))
  have hd : d.isDigit = true :=
    Nat.isDigit_of_mem_toDigits (by decide) (by decide) (hds ▸ List.mem_cons_self)
  rw [hds]
  exact begins_of_isDigit hd _

theorem begins_positional {digits : List Char} (h : Begins digits) (lead : Int)
    (minFraction : Nat) : Begins (Decimal.positional digits lead minFraction) := by
  obtain ⟨d, ds, rfl, hspace, hbracket⟩ := h
  unfold Decimal.positional
  dsimp only
  split
  · split <;> exact begins_cons hspace hbracket _
  · split <;> exact begins_cons (by decide) (by decide) _

theorem begins_scientific {digits : List Char} (h : Begins digits) (lead : Int) :
    Begins (Decimal.scientific digits lead) := by
  obtain ⟨d, ds, rfl, hspace, hbracket⟩ := h
  cases ds <;> exact begins_cons hspace hbracket _

theorem begins_realText (x : Binary64) : Begins (realText x) := by
  have hdigits : Begins (Decimal.shortest x).leadForm.1 := begins_toDigits _
  unfold realText
  dsimp only
  split
  · exact begins_cons (by decide) (by decide) _
  · split
    · exact begins_positional hdigits _ _
    · exact begins_scientific hdigits _

theorem begins_numberText (n : JsonNumber) : Begins (numberText n) := by
  cases n with
  | real x => exact begins_realText x
  | integer n =>
    rw [numberText, integerText]
    split
    · exact begins_cons (by decide) (by decide) _
    · exact begins_toDigits n.natAbs

theorem Layout.begins {v : Json} {text : List Char} (h : Layout v text) : Begins text := by
  cases h with
  | null => exact begins_cons (by decide) (by decide) _
  | bool b => cases b <;> exact begins_cons (by decide) (by decide) _
  | number n => exact begins_numberText n
  | string s => exact begins_stringText s
  | array hitems hbody => exact begins_cons (by decide) (by decide) _
  | object hmembers hbody => exact begins_cons (by decide) (by decide) _

theorem begins_of_layouts {items : List Json} {texts : List (List Char)}
    (h : List.Forall₂ Layout items texts) : ∀ text ∈ texts, Begins text := by
  induction h with
  | nil => exact nofun
  | cons hitem hitems ih => exact List.forall_mem_cons.2 ⟨hitem.begins, ih⟩

theorem Row.delimited {texts : List (List Char)} {body : List Char} (h : Row false texts body)
    {rest : List Char} (hrest : Delimited rest) : Delimited (body ++ rest) := by
  cases h with
  | close hws => exact delimited_blank_append hws hrest
  | next hws hws' h =>
    rw [List.append_assoc]
    exact delimited_blank_append hws (delimited_cons (by decide) _)

/-! ### What a reader makes of a value -/

namespace Reader
variable {α σ : Type}

/-- Behind white space and ahead of any delimiter. -/
def Yields (p : Reader α) (text : List Char) (r : Except Cause α) : Prop :=
  ∀ ws rest offset, Blank ws → Delimited rest → Ends rest r (p ⟨ws ++ (text ++ rest), offset⟩)

def Reads (p : Reader α) (v : Json) (r : Except Cause α) : Prop :=
  ∀ text, Layout v text → Yields p text r

/-! ### Strings and numbers -/

theorem string_stringText (s : String) {ws : List Char} (hws : Blank ws) (rest : List Char)
    (offset : Nat) :
    ∃ offset', string ⟨ws ++ (stringText s ++ rest), offset⟩ = .ok (s, ⟨rest, offset'⟩) := by
  obtain ⟨offset', htext⟩ := text_escape s rest (offset + ws.length + '"'.utf8Size)
  refine ⟨offset', ?_⟩
  simp only [stringText, List.append_assoc, List.cons_append, List.nil_append]
  rw [string, bind_of_ok (peekToken_blank hws (by decide) _ offset)]
  change (skip >>= fun _ => text) _ = _
  rw [bind_of_ok (skip_cons _ _ _), htext]

theorem reads_string (s : String) : Reads string (.string s) (.ok s) := by
  intro text htext ws rest offset hws hrest
  cases htext
  obtain ⟨offset', h⟩ := string_stringText s hws rest offset
  rw [h]
  exact .ok s offset'

theorem value_quote {ws : List Char} (hws : Blank ws) (depth : Nat) (cs : List Char)
    (offset : Nat) :
    value (depth + 1) ⟨ws ++ '"' :: cs, offset⟩ =
      (do return .string (← text) : Reader Json) ⟨cs, offset + ws.length + '"'.utf8Size⟩ := by
  rw [value, bind_of_ok (peekToken_blank hws (by decide) _ offset)]
  rfl

theorem reads_value_string (s : String) (depth : Nat) :
    Reads (value (depth + 1)) (.string s) (.ok (.string s)) := by
  intro text htext ws rest offset hws hrest
  cases htext
  obtain ⟨offset', htext⟩ := text_escape s rest (offset + ws.length + '"'.utf8Size)
  simp only [stringText, List.append_assoc, List.cons_append, List.nil_append]
  rw [value_quote hws, bind_of_ok htext]
  exact .ok _ offset'

theorem numberText_natCast (n : Nat) : numberText (.integer n) = Nat.toDigits 10 n := by
  rw [numberText, integerText, if_neg (Int.not_lt.2 (Int.natCast_nonneg n)), Int.natAbs_natCast]

theorem reads_word {n : Nat} (hn : n ≤ maxWord) : Reads word (.number (.integer n)) (.ok n) := by
  intro text htext ws rest offset hws hrest
  cases htext
  obtain ⟨offset', h⟩ := word_toDigits hn hws hrest offset
  rw [numberText_natCast, h]
  exact .ok n offset'

theorem reads_optional {item : Reader α} {v : Json} {r : Except Cause α} (hitem : Reads item v r)
    (hv : ∀ text, Layout v text → text.head? ≠ some 'n') :
    Reads (optional item) v (r.map some) := by
  intro text htext ws rest offset hws hrest
  obtain ⟨c, cs, rfl, hspace, -⟩ := htext.begins
  have hc : ¬some c = some 'n' := hv _ htext
  rw [optional, List.cons_append, bind_of_ok (peekToken_blank hws hspace _ offset), if_neg hc]
  exact (hitem _ htext [] rest _ blank_nil hrest).map fun a offset' => ⟨offset', rfl⟩

theorem reads_optional_string (s : String) :
    Reads (optional string) (.string s) (.ok (some s)) := by
  refine reads_optional (reads_string s) fun text htext => ?_
  cases htext
  exact nofun

theorem reads_optional_word {n : Nat} (hn : n ≤ maxWord) :
    Reads (optional word) (.number (.integer n)) (.ok (some n)) := by
  refine reads_optional (reads_word hn) fun text htext hhead => ?_
  cases htext
  have hmem : 'n' ∈ Nat.toDigits 10 n := by
    rw [numberText_natCast] at hhead
    exact List.mem_of_mem_head? hhead
  have hdigit := Nat.isDigit_of_mem_toDigits (by decide) (by decide) hmem
  cases hdigit

/-! ### Lists -/

theorem nextElement_close {first : Bool} {body : List Char} (h : Row first [] body)
    (rest : List Char) (offset : Nat) :
    ∃ offset', nextElement first ⟨body ++ ']' :: rest, offset⟩ =
      .ok (false, ⟨']' :: rest, offset'⟩) := by
  cases h with
  | close hws =>
    refine ⟨offset + body.length, ?_⟩
    rw [nextElement, bind_of_ok (peekToken_blank hws (by decide) rest offset)]
    rfl

theorem nextElement_item {first : Bool} {text body : List Char} {texts : List (List Char)}
    (h : Row first (text :: texts) body) (htext : Begins text) :
    ∃ cs, Row false texts cs ∧ ∀ rest offset, ∃ offset',
      nextElement first ⟨body ++ rest, offset⟩ = .ok (true, ⟨text ++ (cs ++ rest), offset'⟩) := by
  obtain ⟨c, tail, rfl, hspace, hbracket⟩ := htext
  cases h with
  | @first ws _ cs _ hws hcs =>
    refine ⟨cs, hcs, fun rest offset => ⟨offset + ws.length, ?_⟩⟩
    simp only [List.append_assoc, List.cons_append]
    rw [nextElement, bind_of_ok (peekToken_blank hws hspace _ offset)]
    refine congrFun (g := (return true : Reader Bool)) ?_ _
    split
    next h => cases h
    next h => exact absurd (Option.some.inj h) hbracket
    next => rfl
  | @next ws ws' _ cs _ hws hws' hcs =>
    refine ⟨cs, hcs, fun rest offset => ⟨offset + ws.length + ','.utf8Size + ws'.length, ?_⟩⟩
    simp only [List.append_assoc, List.cons_append]
    rw [nextElement, bind_of_ok (peekToken_blank hws (by decide) _ offset)]
    change (skip >>= fun _ => peekToken >>= fun x => _) _ = _
    rw [bind_of_ok (skip_cons _ _ _), bind_of_ok (peekToken_blank hws' hspace _ _)]
    refine congrFun (g := (return true : Reader Bool)) ?_ _
    split
    next h => exact absurd (Option.some.inj h) hbracket
    next => rfl
    next h => cases h

theorem mapM_id_cons {ε : Type} (r : Except ε α) (rs : List (Except ε α)) :
    (r :: rs).mapM id = r.bind fun x => (rs.mapM id).bind fun xs => .ok (x :: xs) :=
  List.mapM_cons

theorem ends_elementsFrom {item : Reader α} {texts : List (List Char)}
    {results : List (Except Cause α)} (hitems : List.Forall₂ (Yields item) texts results)
    (htexts : ∀ text ∈ texts, Begins text) {first : Bool} {body : List Char}
    (hbody : Row first texts body) (fuel : Nat) (rest : List Char) (offset : Nat) :
    Ends (']' :: rest) (results.mapM id)
      (elementsFrom item (texts.length + fuel + 1) first ⟨body ++ ']' :: rest, offset⟩) := by
  induction hitems generalizing first body offset with
  | nil =>
    obtain ⟨offset', hnext⟩ := nextElement_close hbody rest offset
    rw [elementsFrom, bind_of_ok hnext]
    exact .ok [] offset'
  | @cons text r texts results hitem hitems ih =>
    rw [List.forall_mem_cons] at htexts
    obtain ⟨cs, hcs, hnext⟩ := nextElement_item hbody htexts.1
    obtain ⟨offset', hnext⟩ := hnext (']' :: rest) offset
    have hdelimited : Delimited (cs ++ ']' :: rest) := hcs.delimited (delimited_cons (by decide) _)
    have hfuel : (text :: texts).length + fuel = texts.length + fuel + 1 := by
      rw [List.length_cons]
      omega
    rw [mapM_id_cons, elementsFrom, bind_of_ok hnext, hfuel]
    refine (hitem [] _ offset' blank_nil hdelimited).bind fun x offset₁ _ => ?_
    exact (ih htexts.2 hcs offset₁).bind fun xs offset₂ _ => .ok (x :: xs) offset₂

theorem length_le_of_row {first : Bool} {texts : List (List Char)} {body : List Char}
    (h : Row first texts body) (htexts : ∀ text ∈ texts, Begins text) :
    texts.length ≤ body.length := by
  induction h with
  | close hws => exact Nat.zero_le _
  | first hws h ih =>
    rw [List.forall_mem_cons] at htexts
    obtain ⟨⟨c, cs, rfl, -⟩, htexts⟩ := htexts
    have := ih htexts
    simp only [List.length_cons, List.length_append]
    omega
  | next hws hws' h ih =>
    rw [List.forall_mem_cons] at htexts
    have := ih htexts.2
    simp only [List.length_cons, List.length_append]
    omega

theorem exists_fuel {texts : List (List Char)} {body : List Char} (h : Row true texts body)
    (htexts : ∀ text ∈ texts, Begins text) (rest : List Char) :
    ∃ fuel, (body ++ rest).length = texts.length + fuel := by
  have hle := length_le_of_row h htexts
  exact Nat.exists_eq_add_of_le (by rw [List.length_append]; omega)

theorem closeList_cons (rest : List Char) (offset : Nat) :
    closeList ⟨']' :: rest, offset⟩ = .ok ((), ⟨rest, offset + ']'.utf8Size⟩) := by
  rw [closeList, bind_of_ok (peekToken_cons (by decide) rest offset)]
  rfl

theorem yields_of_layouts {item : Reader α} {items : List Json} {results : List (Except Cause α)}
    {texts : List (List Char)} (hitems : List.Forall₂ (Reads item) items results)
    (htexts : List.Forall₂ Layout items texts) : List.Forall₂ (Yields item) texts results := by
  induction hitems generalizing texts with
  | nil =>
    cases htexts
    exact .nil
  | cons hitem hitems ih =>
    cases htexts with
    | cons htext htexts => exact .cons (hitem _ htext) (ih htexts)

theorem sequence_open {item : Reader α} {ws : List Char} (hws : Blank ws) {depth : Nat}
    (hdepth : 1 < depth) (cs : List Char) (offset : Nat) :
    sequence depth item ⟨ws ++ '[' :: cs, offset⟩ =
      (do let xs ← elements item; closeList; return xs : Reader (List α))
        ⟨cs, offset + ws.length + '['.utf8Size⟩ := by
  rw [sequence, bind_of_ok (peekToken_blank hws (by decide) _ offset)]
  change (if depth ≤ 1 then _ else _ : Reader (List α)) _ = _
  rw [if_neg (Nat.not_le.2 hdepth)]
  rfl

theorem sequence_deep {item : Reader α} {ws : List Char} (hws : Blank ws) {depth : Nat}
    (hdepth : depth ≤ 1) (cs : List Char) (offset : Nat) :
    ∃ offset', sequence depth item ⟨ws ++ '[' :: cs, offset⟩ = .error ⟨.tooDeep, offset'⟩ := by
  refine ⟨offset + ws.length + 1, ?_⟩
  rw [sequence, bind_of_ok (peekToken_blank hws (by decide) _ offset)]
  change (if depth ≤ 1 then _ else _ : Reader (List α)) _ = _
  rw [if_pos hdepth]
  rfl

theorem reads_sequence {item : Reader α} {items : List Json} {results : List (Except Cause α)}
    (hitems : List.Forall₂ (Reads item) items results) {depth : Nat} (hdepth : 1 < depth) :
    Reads (sequence depth item) (.array items) (results.mapM id) := by
  intro text htext ws rest offset hws hrest
  cases htext with
  | @array _ texts body htexts hbody =>
    obtain ⟨fuel, hfuel⟩ := exists_fuel hbody (begins_of_layouts htexts) (']' :: rest)
    have hends := ends_elementsFrom (yields_of_layouts hitems htexts) (begins_of_layouts htexts)
      hbody fuel rest (offset + ws.length + '['.utf8Size)
    rw [← hfuel] at hends
    simp only [List.cons_append, List.append_assoc, List.nil_append]
    rw [sequence_open hws hdepth]
    have hclosed := hends.map (g := id) fun xs offset' =>
      ⟨_, bind_of_ok (f := fun _ => pure xs) (closeList_cons rest offset')⟩
    rwa [Except.map_id] at hclosed

theorem reads_sequence_deep {item : Reader α} (items : List Json) {depth : Nat}
    (hdepth : depth ≤ 1) : Reads (sequence depth item) (.array items) (.error .tooDeep) := by
  intro text htext ws rest offset hws hrest
  cases htext with
  | @array _ texts body htexts hbody =>
    obtain ⟨offset', hdeep⟩ := sequence_deep hws hdepth (body ++ ']' :: rest) offset
    simp only [List.cons_append, List.append_assoc, List.nil_append]
    rw [hdeep]
    exact .error _ _

/-! ### Objects -/

theorem nextKey_close {first : Bool} {body : List Char} (h : Row first [] body)
    (rest : List Char) (offset : Nat) :
    ∃ offset', nextKey first ⟨body ++ '\x7d' :: rest, offset⟩ =
      .ok (none, ⟨'\x7d' :: rest, offset'⟩) := by
  cases h with
  | close hws =>
    refine ⟨offset + body.length, ?_⟩
    rw [nextKey, bind_of_ok (peekToken_blank hws (by decide) rest offset)]
    rfl

theorem nextKey_member {first : Bool} {key : String} {after body : List Char}
    {texts : List (List Char)} (h : Row first ((stringText key ++ after) :: texts) body) :
    ∃ cs, Row false texts cs ∧ ∀ rest offset, ∃ offset',
      nextKey first ⟨body ++ rest, offset⟩ = .ok (some key, ⟨after ++ (cs ++ rest), offset'⟩) := by
  cases h with
  | @first ws _ cs _ hws hcs =>
    refine ⟨cs, hcs, fun rest offset => ?_⟩
    obtain ⟨offset', htext⟩ :=
      text_escape key (after ++ (cs ++ rest)) (offset + ws.length + '"'.utf8Size)
    refine ⟨offset', ?_⟩
    simp only [stringText, List.append_assoc, List.cons_append, List.nil_append]
    rw [nextKey, bind_of_ok (peekToken_blank hws (by decide) _ offset)]
    change (skip >>= fun _ => text >>= fun k => pure (some k)) _ = _
    rw [bind_of_ok (skip_cons _ _ _), bind_of_ok htext]
    rfl
  | @next ws ws' _ cs _ hws hws' hcs =>
    refine ⟨cs, hcs, fun rest offset => ?_⟩
    obtain ⟨offset', htext⟩ := text_escape key (after ++ (cs ++ rest))
      (offset + ws.length + ','.utf8Size + ws'.length + '"'.utf8Size)
    refine ⟨offset', ?_⟩
    simp only [stringText, List.append_assoc, List.cons_append, List.nil_append]
    rw [nextKey, bind_of_ok (peekToken_blank hws (by decide) _ offset)]
    change (skip >>= fun _ => peekToken >>= fun x => _) _ = _
    rw [bind_of_ok (skip_cons _ _ _), bind_of_ok (peekToken_blank hws' (by decide) _ _)]
    change (skip >>= fun _ => text >>= fun k => pure (some k)) _ = _
    rw [bind_of_ok (skip_cons _ _ _), bind_of_ok htext]
    rfl

theorem colon_blank {ws : List Char} (hws : Blank ws) (cs : List Char) (offset : Nat) :
    colon ⟨ws ++ ':' :: cs, offset⟩ = .ok ((), ⟨cs, offset + ws.length + ':'.utf8Size⟩) := by
  rw [colon, bind_of_ok (peekToken_blank hws (by decide) cs offset)]
  rfl

theorem mapM_member_cons {ε : Type} (f : Json → Except ε α) (m : String × Json)
    (ms : List (String × Json)) :
    (m :: ms).mapM (fun m => (f m.2).map (m.1, ·)) =
      (f m.2).bind fun x => (ms.mapM fun m => (f m.2).map (m.1, ·)).bind fun xs =>
        .ok ((m.1, x) :: xs) := by
  rw [List.mapM_cons]
  cases f m.2 <;> rfl

theorem ends_membersFrom {item : Reader α} {f : Json → Except Cause α}
    {members : List (String × Json)} (hitems : ∀ m ∈ members, Reads item m.2 (f m.2))
    {texts : List (List Char)} (htexts : List.Forall₂ (Member Layout) members texts)
    {first : Bool} {body : List Char} (hbody : Row first texts body) (fuel : Nat)
    (rest : List Char) (offset : Nat) :
    Ends ('\x7d' :: rest) (members.mapM fun m => (f m.2).map (m.1, ·))
      (membersFrom item (texts.length + fuel + 1) first ⟨body ++ '\x7d' :: rest, offset⟩) := by
  induction htexts generalizing first body offset with
  | nil =>
    obtain ⟨offset', hnext⟩ := nextKey_close hbody rest offset
    rw [membersFrom, bind_of_ok hnext]
    exact .ok [] offset'
  | @cons m text members texts hm htexts ih =>
    rw [List.forall_mem_cons] at hitems
    cases hm with
    | @mk key v ws ws' text hws hws' htext =>
      obtain ⟨cs, hcs, hnext⟩ := nextKey_member hbody
      obtain ⟨offset', hnext⟩ := hnext ('\x7d' :: rest) offset
      have hdelimited : Delimited (cs ++ '\x7d' :: rest) :=
        hcs.delimited (delimited_cons (by decide) _)
      have hfuel : texts.length + 1 + fuel = texts.length + fuel + 1 := by omega
      simp only [List.append_assoc, List.cons_append] at hnext
      rw [mapM_member_cons, List.length_cons, hfuel, membersFrom, bind_of_ok hnext]
      change Ends _ _ ((colon >>= fun _ => item >>= fun x => _) _)
      rw [bind_of_ok (colon_blank hws _ _)]
      refine (hitems.1 _ htext ws' _ _ hws' hdelimited).bind fun x offset₁ _ => ?_
      exact (ih hitems.2 hcs offset₁).bind fun xs offset₂ _ => .ok ((key, x) :: xs) offset₂

theorem begins_of_members {members : List (String × Json)} {texts : List (List Char)}
    (h : List.Forall₂ (Member Layout) members texts) : ∀ text ∈ texts, Begins text := by
  induction h with
  | nil => exact nofun
  | cons hm hms ih =>
    cases hm
    exact List.forall_mem_cons.2 ⟨begins_cons (by decide) (by decide) _, ih⟩

theorem map_open {item : Reader α} {ws : List Char} (hws : Blank ws) {depth : Nat}
    (hdepth : 1 < depth) (cs : List Char) (offset : Nat) :
    map depth item ⟨ws ++ '\x7b' :: cs, offset⟩ =
      (do let ms ← members item; skip; return ms : Reader (List (String × α)))
        ⟨cs, offset + ws.length + '\x7b'.utf8Size⟩ := by
  rw [map, bind_of_ok (peekToken_blank hws (by decide) _ offset)]
  change (if depth ≤ 1 then _ else _ : Reader (List (String × α))) _ = _
  rw [if_neg (Nat.not_le.2 hdepth)]
  rfl

theorem reads_map {item : Reader α} {f : Json → Except Cause α} {members : List (String × Json)}
    (hitems : ∀ m ∈ members, Reads item m.2 (f m.2)) {depth : Nat} (hdepth : 1 < depth) :
    Reads (map depth item) (.object members) (members.mapM fun m => (f m.2).map (m.1, ·)) := by
  intro text htext ws rest offset hws hrest
  cases htext with
  | @object _ texts body htexts hbody =>
    obtain ⟨fuel, hfuel⟩ := exists_fuel hbody (begins_of_members htexts) ('\x7d' :: rest)
    have hends := ends_membersFrom hitems htexts hbody fuel rest
      (offset + ws.length + '\x7b'.utf8Size)
    rw [← hfuel] at hends
    simp only [List.cons_append, List.append_assoc, List.nil_append]
    rw [map_open hws hdepth]
    have hclosed := hends.map (g := id) fun ms offset' =>
      ⟨_, bind_of_ok (f := fun _ => pure ms) (skip_cons '\x7d' rest offset')⟩
    rwa [Except.map_id] at hclosed

end Reader

end DocStream.Json
