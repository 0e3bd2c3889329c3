import DocStream.Proofs.JsonLayout

/-! What the printers write is a layout of the value, so a reader makes of the compact and of the
indented text the same. -/

namespace DocStream.Json

theorem blank_newline (depth : Nat) : Blank (newline depth) := by
  intro c hc
  rcases List.mem_cons.1 hc with rfl | hc
  · rfl
  · obtain rfl := List.eq_of_mem_replicate hc
    rfl

theorem Row.single {ws ws' : List Char} (hws : Blank ws) (hws' : Blank ws') (text : List Char) :
    Row true [text] (ws ++ text ++ ws') := by
  rw [List.append_assoc]
  exact .first hws (.close hws')

theorem Row.cons {ws text' body : List Char} {texts : List (List Char)} (hws : Blank ws)
    (text : List Char) (h : Row true (text' :: texts) body) :
    Row true (text :: text' :: texts) (ws ++ text ++ ',' :: body) := by
  rw [List.append_assoc]
  refine .first hws ?_
  -- What led the next text in now stands behind the comma.
  cases h with
  | first hws' h => exact .next blank_nil hws' h

theorem member_close (k : String) {v : Json} {text : List Char} (h : Layout v text) :
    Member Layout (k, v) (stringText k ++ ':' :: text) := .mk k blank_nil blank_nil h

theorem member_spaced (k : String) {v : Json} {text : List Char} (h : Layout v text) :
    Member Layout (k, v) (stringText k ++ ':' :: ' ' :: text) := by
  have hspace : Blank [' '] := by simp [Blank, Reader.isSpace]
  exact .mk k blank_nil hspace h

mutual

theorem layout_compactChars : ∀ v : Json, Layout v (compactChars v)
  | .null => .null
  | .bool true => .bool true
  | .bool false => .bool false
  | .number n => .number n
  | .string s => .string s
  | .array items => by
    obtain ⟨texts, htexts, hrow⟩ := row_compactItems items
    exact .array htexts hrow
  | .object members => by
    obtain ⟨texts, htexts, hrow⟩ := row_compactMembers members
    exact .object htexts hrow

theorem row_compactItems : ∀ items : List Json,
    ∃ texts, List.Forall₂ Layout items texts ∧ Row true texts (compactItems items)
  | [] => ⟨[], .nil, .close blank_nil⟩
  | [v] => by
    have hrow := Row.single blank_nil blank_nil (compactChars v)
    rw [List.append_nil, List.nil_append] at hrow
    exact ⟨[compactChars v], .cons (layout_compactChars v) .nil, hrow⟩
  | v :: w :: vs => by
    obtain ⟨texts, htexts, hrow⟩ := row_compactItems (w :: vs)
    cases htexts with
    | cons hw hvs =>
      exact ⟨_, .cons (layout_compactChars v) (.cons hw hvs), .cons blank_nil _ hrow⟩

theorem row_compactMembers : ∀ members : List (String × Json),
    ∃ texts, List.Forall₂ (Member Layout) members texts ∧ Row true texts (compactMembers members)
  | [] => ⟨[], .nil, .close blank_nil⟩
  | [(k, v)] => by
    have hrow := Row.single blank_nil blank_nil (stringText k ++ ':' :: compactChars v)
    rw [List.append_nil, List.nil_append] at hrow
    exact ⟨_, .cons (member_close k (layout_compactChars v)) .nil, hrow⟩
  | (k, v) :: m :: ms => by
    obtain ⟨texts, htexts, hrow⟩ := row_compactMembers (m :: ms)
    cases htexts with
    | cons hm hms =>
      exact ⟨_, .cons (member_close k (layout_compactChars v)) (.cons hm hms),
        .cons blank_nil _ hrow⟩

end

mutual

theorem layout_prettyChars (depth : Nat) : ∀ v : Json, Layout v (prettyChars depth v)
  | .null => .null
  | .bool true => .bool true
  | .bool false => .bool false
  | .number n => .number n
  | .string s => .string s
  | .array [] => .array .nil (.close blank_nil)
  | .array (v :: vs) => by
    obtain ⟨texts, htexts, hrow⟩ := row_prettyItems depth (v :: vs)
    exact .array htexts hrow
  | .object [] => .object .nil (.close blank_nil)
  | .object (m :: ms) => by
    obtain ⟨texts, htexts, hrow⟩ := row_prettyMembers depth (m :: ms)
    exact .object htexts hrow

theorem row_prettyItems (depth : Nat) : ∀ items : List Json,
    ∃ texts, List.Forall₂ Layout items texts ∧
      Row true texts (prettyItems (depth + 1) items ++ newline depth)
  | [] => ⟨[], .nil, .close (blank_newline depth)⟩
  | [v] =>
    ⟨_, .cons (layout_prettyChars (depth + 1) v) .nil,
      .single (blank_newline (depth + 1)) (blank_newline depth) _⟩
  | v :: w :: vs => by
    obtain ⟨texts, htexts, hrow⟩ := row_prettyItems depth (w :: vs)
    cases htexts with
    | cons hw hvs =>
      have hnext := hrow.cons (blank_newline (depth + 1)) (prettyChars (depth + 1) v)
      refine ⟨_, .cons (layout_prettyChars (depth + 1) v) (.cons hw hvs), ?_⟩
      simpa [prettyItems] using hnext

theorem row_prettyMembers (depth : Nat) : ∀ members : List (String × Json),
    ∃ texts, List.Forall₂ (Member Layout) members texts ∧
      Row true texts (prettyMembers (depth + 1) members ++ newline depth)
  | [] => ⟨[], .nil, .close (blank_newline depth)⟩
  | [(k, v)] => by
    have hrow := Row.single (blank_newline (depth + 1)) (blank_newline depth)
      (stringText k ++ ':' :: ' ' :: prettyChars (depth + 1) v)
    refine ⟨_, .cons (member_spaced k (layout_prettyChars (depth + 1) v)) .nil, ?_⟩
    simpa [prettyMembers] using hrow
  | (k, v) :: m :: ms => by
    obtain ⟨texts, htexts, hrow⟩ := row_prettyMembers depth (m :: ms)
    cases htexts with
    | cons hm hms =>
      have hnext := hrow.cons (blank_newline (depth + 1))
        (stringText k ++ ':' :: ' ' :: prettyChars (depth + 1) v)
      refine ⟨_, .cons (member_spaced k (layout_prettyChars (depth + 1) v)) (.cons hm hms), ?_⟩
      simpa [prettyMembers] using hnext

end

theorem writtenAs_compact (v : Json) : v.WrittenAs v.compact :=
  ⟨[], compactChars v, [], blank_nil, layout_compactChars v, blank_nil, by simp [compact]⟩

theorem writtenAs_pretty (v : Json) : v.WrittenAs v.pretty :=
  ⟨[], prettyChars 0 v, [], blank_nil, layout_prettyChars 0 v, blank_nil, by simp [pretty]⟩

end DocStream.Json
