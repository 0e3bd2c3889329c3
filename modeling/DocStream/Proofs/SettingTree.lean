import DocStream.Config.Setting
import DocStream.Dictionary

/-! What putting a setting somewhere does to a tree of settings: it changes what stands under the
first name of its path, and nothing beside it. Under that name a table keeps all it holds but what
is put over it. -/

namespace DocStream.Config.Setting

def IsTable (t : Setting) : Prop := ∃ o es, t = .table o es

theorem lookup_putEntry (key name : String) (v : Setting) (es : List (String × Setting)) :
    (putEntry name v es).lookup key = if key = name then some v else es.lookup key := by
  induction es with
  | nil => rw [putEntry, Dictionary.lookup_cons_if]
  | cons e es ih =>
    obtain ⟨k, w⟩ := e
    unfold putEntry
    split
    next heq =>
      subst heq
      simp only [Dictionary.lookup_cons_if]
      split <;> rfl
    next hne =>
      simp only [Dictionary.lookup_cons_if, ih]
      -- The entry that is passed over is not the one looked for.
      split
      next heq => rw [if_neg fun h => hne (heq.symm.trans h)]
      next => rfl

theorem lookup_put (t : Setting) (key name : String) (v : Setting) :
    (t.put name v).entries.lookup key =
      if key = Text.lower name then some v else t.entries.lookup key := by
  cases t with
  | table o es => exact lookup_putEntry key _ v es
  | scalar o w => exact lookup_putEntry key _ v []
  | list o vs => exact lookup_putEntry key _ v []

theorem isTable_put (t : Setting) (name : String) (v : Setting) : (t.put name v).IsTable := by
  cases t <;> exact ⟨_, _, rfl⟩

theorem exists_put_of_assign (t : Setting) (name : String) (v : Setting) :
    ∃ w, t.assign name v = t.put name w := by
  cases v with
  | table o es => exact ⟨_, assign.eq_1 t name o es⟩
  | scalar o x => exact ⟨_, assign.eq_2 t name o x⟩
  | list o vs => exact ⟨_, assign.eq_3 t name o vs⟩

theorem exists_put_of_set (t : Setting) (path : KeyPath) (v : Setting) :
    ∃ w, t.set path v = t.put path.root w := by
  unfold set
  cases path.steps with
  | nil => exact exists_put_of_assign t path.root v
  | cons step steps => exact ⟨_, rfl⟩

theorem lookup_set_of_ne {t : Setting} {path : KeyPath} {key : String} (v : Setting)
    (h : key ≠ Text.lower path.root) :
    (t.set path v).entries.lookup key = t.entries.lookup key := by
  obtain ⟨w, hw⟩ := exists_put_of_set t path v
  rw [hw, lookup_put, if_neg h]

theorem lookup_assign_of_ne {t : Setting} {name key : String} (v : Setting)
    (h : key ≠ Text.lower name) :
    (t.assign name v).entries.lookup key = t.entries.lookup key := by
  obtain ⟨w, hw⟩ := exists_put_of_assign t name v
  rw [hw, lookup_put, if_neg h]

theorem isTable_assign (t : Setting) (name : String) (v : Setting) :
    (t.assign name v).IsTable := by
  obtain ⟨w, hw⟩ := exists_put_of_assign t name v
  rw [hw]
  exact isTable_put t name w

theorem lookup_assign_scalar (t : Setting) (name : String) (o : Option String) (v : Scalar) :
    (t.assign name (.scalar o v)).entries.lookup (Text.lower name) = some (.scalar o v) := by
  rw [assign, lookup_put, if_pos rfl]

theorem mergeEntries_eq_foldl (t : Setting) (es : List (String × Setting)) :
    mergeEntries t es = es.foldl (fun t e => t.assign e.1 e.2) t := by
  induction es generalizing t with
  | nil => rw [mergeEntries, List.foldl_nil]
  | cons e es ih => rw [mergeEntries, List.foldl_cons, ih]

end DocStream.Config.Setting
