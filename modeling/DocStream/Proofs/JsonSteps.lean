import DocStream.Json.Printer
import DocStream.Json.Reader
import Mathlib.Data.List.Basic

/-! Single steps of a reader of JSON: white space, strings and whole numbers, each read back from
the way it is written, with what follows left for the next step. -/

namespace DocStream.Json

def Blank (ws : List Char) : Prop := ∀ c ∈ ws, Reader.isSpace c = true

theorem blank_nil : Blank [] := nofun

/-- A text that no number goes on with. -/
def Delimited (rest : List Char) : Prop :=
  ∀ c ∈ rest.head?, c.isDigit = false ∧ c ≠ '.' ∧ c ≠ 'e' ∧ c ≠ 'E'

theorem delimited_cons {c : Char} (h : c.isDigit = false ∧ c ≠ '.' ∧ c ≠ 'e' ∧ c ≠ 'E')
    (cs : List Char) : Delimited (c :: cs) := by
  intro x hx
  cases hx
  exact h

theorem delimited_blank_append {ws rest : List Char} (hws : Blank ws) (hrest : Delimited rest) :
    Delimited (ws ++ rest) := by
  cases ws with
  | nil => exact hrest
  | cons c ws =>
    have hc : Reader.isSpace c = true := hws c List.mem_cons_self
    refine delimited_cons ?_ _
    simp only [Reader.isSpace, Bool.or_eq_true, decide_eq_true_eq] at hc
    obtain ((rfl | rfl) | rfl) | rfl := hc <;> decide

namespace Reader
variable {α β : Type}

theorem bind_of_ok {p : Reader α} {f : α → Reader β} {c c' : Cursor} {a : α}
    (h : p c = .ok (a, c')) : (p >>= f) c = f a c' := by
  change (p c).bind _ = _
  rw [h]
  rfl

theorem bind_of_error {p : Reader α} {f : α → Reader β} {c : Cursor} {fault : Fault}
    (h : p c = .error fault) : (p >>= f) c = .error fault := by
  change (p c).bind _ = _
  rw [h]
  rfl

/-- A reader that ends with a result ahead of some text, or with a fault of some cause. Where it
has got to by then is left open. -/
inductive Ends (rest : List Char) : Except Cause α → Except Fault (α × Cursor) → Prop where
  | ok (a : α) (offset : Nat) : Ends rest (.ok a) (.ok (a, ⟨rest, offset⟩))
  | error (cause : Cause) (offset : Nat) : Ends rest (.error cause) (.error ⟨cause, offset⟩)

theorem Ends.bind {p : Reader α} {f : α → Reader β} {c : Cursor} {rest rest' : List Char}
    {r : Except Cause α} {s : α → Except Cause β} (hp : Ends rest r (p c))
    (hf : ∀ a offset, r = .ok a → Ends rest' (s a) (f a ⟨rest, offset⟩)) :
    Ends rest' (r.bind s) ((p >>= f) c) := by
  generalize hpc : p c = result at hp
  cases hp with
  | ok a offset =>
    rw [bind_of_ok hpc]
    exact hf a offset rfl
  | error cause offset =>
    rw [bind_of_error hpc]
    exact .error cause offset

theorem Ends.map {p : Reader α} {f : α → Reader β} {g : α → β} {c : Cursor}
    {rest rest' : List Char} {r : Except Cause α} (hp : Ends rest r (p c))
    (hf : ∀ a offset, ∃ offset', f a ⟨rest, offset⟩ = .ok (g a, ⟨rest', offset'⟩)) :
    Ends rest' (r.map g) ((p >>= f) c) := by
  generalize hpc : p c = result at hp
  cases hp with
  | ok a offset =>
    obtain ⟨offset', hfa⟩ := hf a offset
    rw [bind_of_ok hpc, hfa]
    exact .ok (g a) offset'
  | error cause offset =>
    rw [bind_of_error hpc]
    exact .error cause offset

theorem Ends.exists_ok {rest : List Char} {a : α} {result : Except Fault (α × Cursor)}
    (h : Ends rest (.ok a) result) : ∃ offset, result = .ok (a, ⟨rest, offset⟩) := by
  cases h with
  | ok a offset => exact ⟨offset, rfl⟩

theorem Ends.exists_error {rest : List Char} {cause : Cause} {result : Except Fault (α × Cursor)}
    (h : Ends rest (.error cause) result) : ∃ offset, result = .error ⟨cause, offset⟩ := by
  cases h with
  | error cause offset => exact ⟨offset, rfl⟩

theorem skip_cons (c : Char) (cs : List Char) (offset : Nat) :
    skip ⟨c :: cs, offset⟩ = .ok ((), ⟨cs, offset + c.utf8Size⟩) := rfl

theorem peek_cons (c : Char) (cs : List Char) (offset : Nat) :
    peek ⟨c :: cs, offset⟩ = .ok (some c, ⟨c :: cs, offset⟩) := rfl

/-! ### White space -/

theorem run_eq (p : Char → Bool) (cs : List Char) (offset : Nat) :
    run p ⟨cs, offset⟩ =
      .ok (cs.takeWhile p, ⟨cs.dropWhile p, offset + (cs.takeWhile p).length⟩) := rfl

theorem takeWhile_append_of_all {p : Char → Bool} {cs rest : List Char} (hcs : ∀ c ∈ cs, p c = true)
    (hrest : ∀ c ∈ rest.head?, p c = false) :
    (cs ++ rest).takeWhile p = cs ∧ (cs ++ rest).dropWhile p = rest := by
  rw [List.takeWhile_append_of_pos hcs, List.dropWhile_append_of_pos hcs]
  cases rest with
  | nil => simp
  | cons c rest =>
    have hc : p c = false := hrest c rfl
    simp [hc]

theorem run_append {p : Char → Bool} {cs rest : List Char} (hcs : ∀ c ∈ cs, p c = true)
    (hrest : ∀ c ∈ rest.head?, p c = false) (offset : Nat) :
    run p ⟨cs ++ rest, offset⟩ = .ok (cs, ⟨rest, offset + cs.length⟩) := by
  obtain ⟨htake, hdrop⟩ := takeWhile_append_of_all hcs hrest
  rw [run_eq, htake, hdrop]

theorem peekToken_blank {ws : List Char} (hws : Blank ws) {c : Char} (hc : isSpace c = false)
    (cs : List Char) (offset : Nat) :
    peekToken ⟨ws ++ c :: cs, offset⟩ = .ok (some c, ⟨c :: cs, offset + ws.length⟩) := by
  have hrun : run isSpace ⟨ws ++ c :: cs, offset⟩ = .ok (ws, ⟨c :: cs, offset + ws.length⟩) :=
    run_append hws (by simpa using hc) offset
  rw [peekToken, bind_of_ok hrun, peek_cons]

theorem peekToken_cons {c : Char} (hc : isSpace c = false) (cs : List Char) (offset : Nat) :
    peekToken ⟨c :: cs, offset⟩ = .ok (some c, ⟨c :: cs, offset⟩) :=
  peekToken_blank blank_nil hc cs offset

theorem peekToken_end {ws : List Char} (hws : Blank ws) (offset : Nat) :
    peekToken ⟨ws, offset⟩ = .ok (none, ⟨[], offset + ws.length⟩) := by
  have hrun : run isSpace ⟨ws ++ [], offset⟩ = .ok (ws, ⟨[], offset + ws.length⟩) :=
    run_append hws (by simp) offset
  rw [List.append_nil] at hrun
  rw [peekToken, bind_of_ok hrun]
  rfl

theorem finish_blank {ws : List Char} (hws : Blank ws) (offset : Nat) :
    finish ⟨ws, offset⟩ = .ok ((), ⟨[], offset + ws.length⟩) := by
  rw [finish, bind_of_ok (peekToken_end hws offset)]
  rfl

/-! ### Strings -/

theorem hexDigits_of_lt : ∀ n < 0x20,
    ['0', '0', hexDigit (n / 16), hexDigit n].all (Text.isDigitIn 16) = true ∧
      Text.natOf 16 ['0', '0', hexDigit (n / 16), hexDigit n] = n := by decide

theorem escape_cases (c : Char) :
    (∃ x, escape c = ['\\', x] ∧ x ≠ 'u' ∧ escaped x = some c) ∨
    (c.toNat < 0x20 ∧ escape c = ['\\', 'u', '0', '0', hexDigit (c.toNat / 16), hexDigit c.toNat]) ∨
    (¬c.toNat < 0x20 ∧ escape c = [c] ∧ c ≠ '"' ∧ c ≠ '\\') := by
  unfold escape
  split
  iterate 7 exact .inl ⟨_, rfl, by decide, rfl⟩
  next hquote hbackslash _ _ _ _ _ =>
    split
    next hcontrol => exact .inr (.inl ⟨hcontrol, rfl⟩)
    next hcontrol => exact .inr (.inr ⟨hcontrol, rfl, hquote, hbackslash⟩)

theorem hexUnit_cons {w x y z : Char} (h : [w, x, y, z].all (Text.isDigitIn 16) = true)
    (cs : List Char) (offset : Nat) :
    hexUnit ⟨w :: x :: y :: z :: cs, offset⟩ =
      .ok (Text.natOf 16 [w, x, y, z], ⟨cs, offset + 4⟩) := by
  change (if [w, x, y, z].all (Text.isDigitIn 16) = true then _ else _ : Reader Nat) _ = _
  rw [if_pos h]
  rfl

theorem escapeSequence_control {c : Char} (hc : c.toNat < 0x20) (cs : List Char) (offset : Nat) :
    ∃ offset', escapeSequence
      ⟨'u' :: '0' :: '0' :: hexDigit (c.toNat / 16) :: hexDigit c.toNat :: cs, offset⟩ =
        .ok (c, ⟨cs, offset'⟩) := by
  obtain ⟨hdigits, hvalue⟩ := hexDigits_of_lt c.toNat hc
  refine ⟨offset + 1 + 4, ?_⟩
  rw [escapeSequence, bind_of_ok (peek_cons _ _ _)]
  change (skip >>= fun _ => unicodeEscape) _ = _
  rw [bind_of_ok (skip_cons _ _ _), unicodeEscape, bind_of_ok (hexUnit_cons hdigits _ _), hvalue]
  have hlow : (0xdc00 ≤ c.toNat && c.toNat ≤ 0xdfff) = false := by simp; omega
  have hhigh : (0xd800 ≤ c.toNat && c.toNat ≤ 0xdbff) = false := by simp; omega
  simp only [hlow, hhigh, Bool.false_eq_true, if_false, Char.ofNat_toNat]
  rfl

theorem escapeSequence_letter {x c : Char} (hu : x ≠ 'u') (hx : escaped x = some c)
    (cs : List Char) (offset : Nat) :
    escapeSequence ⟨x :: cs, offset⟩ = .ok (c, ⟨cs, offset + x.utf8Size⟩) := by
  rw [escapeSequence, bind_of_ok (peek_cons _ _ _)]
  refine (congrFun (g := (do skip; return c : Reader Char)) ?_ _).trans rfl
  split
  next h => cases h
  next h => exact absurd (Option.some.inj h) hu
  next y hy h =>
    obtain rfl : x = y := Option.some.inj h
    simp only [hx]

theorem textFrom_escape (c : Char) (fuel : Nat) (cs : List Char) (offset : Nat) :
    ∃ offset', textFrom (fuel + 1) ⟨escape c ++ cs, offset⟩ =
      (do return c :: (← textFrom fuel) : Reader (List Char)) ⟨cs, offset'⟩ := by
  have hbackslash {escaped : List Char} {offset' : Nat}
      (h : escapeSequence ⟨escaped ++ cs, offset + '\\'.utf8Size⟩ = .ok (c, ⟨cs, offset'⟩)) :
      textFrom (fuel + 1) ⟨'\\' :: escaped ++ cs, offset⟩ =
        (do return c :: (← textFrom fuel) : Reader (List Char)) ⟨cs, offset'⟩ := by
    rw [textFrom, List.cons_append, bind_of_ok (peek_cons _ _ _)]
    change (skip >>= fun _ => escapeSequence >>= fun c => _) _ = _
    rw [bind_of_ok (skip_cons _ _ _), bind_of_ok h]
  obtain ⟨x, hescape, hu, hx⟩ | ⟨hcontrol, hescape⟩ | ⟨hcontrol, hescape, hquote, hslash⟩ :=
    escape_cases c
  · rw [hescape]
    exact ⟨_, hbackslash (escapeSequence_letter hu hx cs _)⟩
  · rw [hescape]
    obtain ⟨offset', h⟩ := escapeSequence_control hcontrol cs (offset + '\\'.utf8Size)
    exact ⟨_, hbackslash h⟩
  · rw [hescape]
    refine ⟨offset + c.utf8Size, ?_⟩
    rw [textFrom, List.singleton_append, bind_of_ok (peek_cons _ _ _)]
    refine (congrFun (g := (do skip; return c :: (← textFrom fuel) : Reader _)) ?_ _).trans rfl
    split
    next h => cases h
    next h => exact absurd (Option.some.inj h) hquote
    next h => exact absurd (Option.some.inj h) hslash
    next y hy hy' h =>
      obtain rfl : c = y := Option.some.inj h
      rw [if_neg hcontrol]

theorem textFrom_flatMap_escape (cs rest : List Char) {fuel : Nat} (hfuel : cs.length < fuel)
    (offset : Nat) :
    ∃ offset', textFrom fuel ⟨cs.flatMap escape ++ '"' :: rest, offset⟩ =
      .ok (cs, ⟨rest, offset'⟩) := by
  induction cs generalizing fuel offset with
  | nil =>
    obtain ⟨fuel, rfl⟩ := Nat.exists_eq_add_of_lt hfuel
    exact ⟨offset + '"'.utf8Size, rfl⟩
  | cons c cs ih =>
    obtain ⟨fuel, rfl⟩ := Nat.exists_eq_add_of_lt hfuel
    have hlength : cs.length < cs.length + 1 + fuel := by omega
    obtain ⟨offset', hc⟩ := textFrom_escape c (cs.length + 1 + fuel)
      (cs.flatMap escape ++ '"' :: rest) offset
    obtain ⟨offset'', hcs⟩ := ih hlength offset'
    refine ⟨offset'', ?_⟩
    rw [List.flatMap_cons, List.append_assoc, List.length_cons, hc, bind_of_ok hcs]
    rfl

theorem length_le_flatMap_escape (cs : List Char) : cs.length ≤ (cs.flatMap escape).length := by
  induction cs with
  | nil => exact Nat.le_refl 0
  | cons c cs ih =>
    have hc : 1 ≤ (escape c).length := by
      obtain ⟨x, h, -⟩ | ⟨-, h⟩ | ⟨-, h, -⟩ := escape_cases c <;> simp [h]
    rw [List.flatMap_cons, List.length_append, List.length_cons]
    omega

theorem text_escape (s : String) (rest : List Char) (offset : Nat) :
    ∃ offset', text ⟨s.toList.flatMap escape ++ '"' :: rest, offset⟩ =
      .ok (s, ⟨rest, offset'⟩) := by
  have hfuel : s.toList.length < (s.toList.flatMap escape ++ '"' :: rest).length + 1 := by
    have := length_le_flatMap_escape s.toList
    rw [List.length_append]
    omega
  obtain ⟨offset', h⟩ := textFrom_flatMap_escape s.toList rest hfuel offset
  refine ⟨offset', ?_⟩
  change (textFrom _ >>= fun cs => pure (String.ofList cs) : Reader String) _ = _
  rw [bind_of_ok h]
  simp only [String.ofList_toList]
  rfl

/-! ### Whole numbers -/

theorem le_foldl_appendDigit (ds : List Char) (n : Nat) :
    n ≤ ds.foldl (Text.appendDigit 10) n := by
  induction ds generalizing n with
  | nil => exact Nat.le_refl n
  | cons d ds ih =>
    have hd : n ≤ Text.appendDigit 10 n d := by
      unfold Text.appendDigit
      omega
    exact Nat.le_trans hd (ih _)

theorem accumulate_of_le (ds : List Char) (n : Nat)
    (h : ds.foldl (Text.appendDigit 10) n ≤ maxWord) :
    accumulate n ds = (ds.foldl (Text.appendDigit 10) n, ds.length) := by
  induction ds generalizing n with
  | nil => rfl
  | cons d ds ih =>
    have hd : ¬maxWord < Text.appendDigit 10 n d :=
      Nat.not_lt.2 (Nat.le_trans (le_foldl_appendDigit ds _) h)
    simp only [accumulate, if_neg hd, ih _ h, List.foldl_cons, List.length_cons]

theorem digitIn_ten {c : Char} (h : c.isDigit = true) :
    Text.digitIn 10 c = some (c.toNat - '0'.toNat) := by
  have hle : c.toNat ≤ '9'.toNat := by
    simp only [Char.isDigit, Bool.and_eq_true, decide_eq_true_eq] at h
    exact h.2
  have hlt : c.toNat - '0'.toNat < 10 := by
    change c.toNat ≤ 57 at hle
    change c.toNat - 48 < 10
    omega
  simpa [Text.digitIn, h] using hlt

theorem foldl_appendDigit_toDigits (n : Nat) :
    (Nat.toDigits 10 n).foldl (Text.appendDigit 10) 0 = n := by
  have hdigit (c : Char) (hc : c ∈ Nat.toDigits 10 n) (m : Nat) :
      Text.appendDigit 10 m c = 10 * m + (c.toNat - '0'.toNat) := by
    rw [Text.appendDigit, digitIn_ten (Nat.isDigit_of_mem_toDigits (by decide) (by decide) hc),
      Option.getD_some]
  calc (Nat.toDigits 10 n).foldl (Text.appendDigit 10) 0
      = Nat.ofDigitChars 10 (Nat.toDigits 10 n) 0 :=
        List.foldl_ext _ _ _ fun m c hc => hdigit c hc m
    _ = n := Nat.ofDigitChars_toDigits (by decide) (by decide)

theorem digitChar_ne_zero : ∀ n < 10, 0 < n → n.digitChar ≠ '0' := by decide

theorem head_toDigits {n : Nat} (hn : 0 < n) :
    ∃ d ds, Nat.toDigits 10 n = d :: ds ∧ d ≠ '0' := by
  induction n using Nat.strongRecOn with
  | ind n ih =>
    rcases Nat.lt_or_ge n 10 with hlt | hge
    · exact ⟨n.digitChar, [], Nat.toDigits_of_lt_base hlt, digitChar_ne_zero n hlt hn⟩
    · obtain ⟨d, ds, hds, hd⟩ := ih (n / 10) (by omega) (by omega)
      refine ⟨d, ds ++ [(n % 10).digitChar], ?_, hd⟩
      rw [Nat.toDigits_of_base_le (by decide) hge, hds, List.cons_append]

theorem wholeDigits_toDigits (n : Nat) {rest : List Char} (hrest : Delimited rest)
    (offset : Nat) :
    ∃ offset', wholeDigits ⟨Nat.toDigits 10 n ++ rest, offset⟩ =
      .ok (Nat.toDigits 10 n, ⟨rest, offset'⟩) := by
  have hstop : ∀ c ∈ rest.head?, c.isDigit = false := fun c hc => (hrest c hc).1
  rcases Nat.eq_zero_or_pos n with rfl | hn
  · refine ⟨offset + '0'.utf8Size, ?_⟩
    have hpeek : rest.head?.any Char.isDigit = false := by
      cases hhead : rest.head? with
      | none => rfl
      | some c => exact hstop c hhead
    change (if rest.head?.any Char.isDigit = true then _ else _ : Reader (List Char)) _ = _
    rw [hpeek]
    rfl
  · obtain ⟨d, ds, hds, hd⟩ := head_toDigits hn
    have hdigits : ∀ c ∈ Nat.toDigits 10 n, c.isDigit = true := fun c hc =>
      Nat.isDigit_of_mem_toDigits (by decide) (by decide) hc
    refine ⟨offset + (Nat.toDigits 10 n).length, ?_⟩
    rw [← run_append hdigits hstop offset, hds, wholeDigits, List.cons_append,
      bind_of_ok (peek_cons _ _ _)]
    refine congrFun (g := run Char.isDigit) ?_ _
    split
    next h => cases h
    next h => exact absurd (Option.some.inj h) hd
    next c hc h =>
      obtain rfl : d = c := Option.some.inj h
      exact if_pos (hdigits d (by simp [hds]))

theorem number_toDigits {n : Nat} (hn : n ≤ maxWord) {rest : List Char} (hrest : Delimited rest)
    (offset : Nat) :
    ∃ offset', number false ⟨Nat.toDigits 10 n ++ rest, offset⟩ =
      .ok (.integer n, ⟨rest, offset'⟩) := by
  have hword : accumulate 0 (Nat.toDigits 10 n) = (n, (Nat.toDigits 10 n).length) := by
    have hvalue := foldl_appendDigit_toDigits n
    rw [accumulate_of_le _ _ (by rwa [hvalue]), hvalue]
  obtain ⟨offset', hdigits⟩ := wholeDigits_toDigits n hrest offset
  refine ⟨offset', ?_⟩
  have hpeek : peek ⟨rest, offset'⟩ = .ok (rest.head?, ⟨rest, offset'⟩) := rfl
  rw [number, bind_of_ok hdigits, hword]
  dsimp only
  rw [bind_of_ok hpeek, Nat.sub_self]
  refine congrFun (g := (return .integer n : Reader JsonNumber)) ?_ _
  split
  next h => exact absurd rfl (hrest _ h).2.1
  next h => exact absurd rfl (hrest _ h).2.2.1
  next h => exact absurd rfl (hrest _ h).2.2.2
  next => rfl

theorem isSpace_of_isDigit {c : Char} (h : c.isDigit = true) : isSpace c = false := by
  by_contra hspace
  simp only [isSpace, Bool.not_eq_false, Bool.or_eq_true, decide_eq_true_eq] at hspace
  obtain ((rfl | rfl) | rfl) | rfl := hspace <;> cases h

theorem word_toDigits {n : Nat} (hn : n ≤ maxWord) {ws rest : List Char} (hws : Blank ws)
    (hrest : Delimited rest) (offset : Nat) :
    ∃ offset', word ⟨ws ++ (Nat.toDigits 10 n ++ rest), offset⟩ = .ok (n, ⟨rest, offset'⟩) := by
  obtain ⟨d, ds, hds⟩ := List.exists_cons_of_ne_nil (Nat.toDigits_ne_nil (n := n) (b := 10))
  have hd : d.isDigit = true :=
    Nat.isDigit_of_mem_toDigits (by decide) (by decide) (hds ▸ List.mem_cons_self)
  obtain ⟨offset', hnumber⟩ := number_toDigits hn hrest (offset + ws.length)
  refine ⟨offset', ?_⟩
  rw [hds, List.cons_append] at hnumber ⊢
  rw [word, bind_of_ok (peekToken_blank hws (isSpace_of_isDigit hd) _ _)]
  refine (congrFun (g := (do wordOf (← number false) : Reader Nat)) ?_ _).trans ?_
  · split
    next h => cases h
    next h =>
      obtain rfl : d = '-' := Option.some.inj h
      cases hd
    next c hc h =>
      obtain rfl : d = c := Option.some.inj h
      exact if_pos hd
  · rw [bind_of_ok hnumber]
    rfl

end Reader

end DocStream.Json
