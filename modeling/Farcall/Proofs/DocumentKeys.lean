import Farcall.Proofs.Success
import Farcall.Yaml.Document

/-!
# Keys of documents

The mappings that are read from a text have keys that can be keys, at any depth: a collection in the
place of a key is refused, and the values of scalars are no collections. This holds of the entries
that a mapping takes over from others as well.
-/

namespace Farcall.Yaml

-- ---------------------------------------------------------------------------
-- Scalars
-- ---------------------------------------------------------------------------

theorem Outcome.both_ok {f : α → β → γ} {a : Outcome α} {b : Outcome β} :
    Outcome.both f a b = .ok c ↔ ∃ x y, a = .ok x ∧ b = .ok y ∧ f x y = c := by
  cases a <;> cases b <;> simp [Outcome.both]

theorem Outcome.map_ok {f : α → β} {a : Outcome α} :
    Except.map f a = .ok b ↔ ∃ x, a = .ok x ∧ f x = b := by
  cases a <;> simp [Except.map]

theorem Outcome.atRank_ok {r : Except Problem α} : Outcome.atRank rank r = .ok a ↔ r = .ok a :=
  mapError_ok

theorem readable_ok {o : Option α} : Scalar.readable o = .ok a ↔ o = some a := by
  cases o <;> simp [Scalar.readable]

theorem hashable_timestamp (h : Scalar.timestamp s = .ok v) : v.hashable = true := by
  unfold Scalar.timestamp at h
  split at h
  · cases h
  · obtain ⟨d, -, h⟩ := Option.bind_eq_some_iff.mp (readable_ok.mp h)
    split at h
    · cases h
      rfl
    · obtain ⟨t, -, h⟩ := Option.bind_eq_some_iff.mp h
      cases h
      rfl

theorem hashable_scalar (h : Scalar.value t s = .ok v) : v.hashable = true := by
  unfold Scalar.value at h
  split at h
  case h_1 | h_7 =>
    cases h
    rfl
  case h_2 =>
    unfold Scalar.bool at h
    split at h <;> cases h
    rfl
  case h_3 | h_4 =>
    obtain ⟨_, -, h⟩ := bind_ok.mp h
    obtain ⟨_, -, h⟩ := bind_ok.mp h
    cases h
    rfl
  case h_5 =>
    unfold Scalar.binary at h
    split at h
    · cases h
    · split at h <;> cases h
      rfl
  case h_6 => exact hashable_timestamp h
  case h_8 => cases h

theorem hashable_misfit (h : misfit level n = .ok v) : v.hashable = true := by
  unfold misfit at h
  split at h
  · cases h
  · split at h
    · cases h
    · split at h
      · cases h
      · exact hashable_scalar (Outcome.atRank_ok.mp h)

theorem valueAt_eq_misfit (h : isCollection n.tag = false) : valueAt level n = misfit level n := by
  cases n <;> rw [valueAt]
  all_goals
    rintro rfl
    cases h

theorem hashable_keyAt (h : keyAt level k = .ok v) : v.hashable = true := by
  unfold keyAt at h
  split at h
  · cases h
    rfl
  · split at h
    · cases h
    · rename_i hscalar
      rw [valueAt_eq_misfit (Bool.eq_false_iff.mpr hscalar)] at h
      exact hashable_misfit h

-- ---------------------------------------------------------------------------
-- Mappings
-- ---------------------------------------------------------------------------

def Written (v : Value) : Prop :=
  ∃ level n, valueAt level n = .ok v

structure WrittenEntry (e : Value × Value) : Prop where
  key : e.1.hashable = true
  value : Written e.2

theorem written_ownAt (h : ownAt level entries = .ok r) : ∀ e ∈ r, WrittenEntry e := by
  induction entries generalizing r with
  | nil =>
    rw [ownAt] at h
    cases h
    exact List.forall_mem_nil _
  | cons e entries ih =>
    rw [ownAt] at h
    split at h
    · exact ih h
    · obtain ⟨e, rest, he, hrest, rfl⟩ := Outcome.both_ok.mp h
      obtain ⟨k, v, hk, hv, rfl⟩ := Outcome.both_ok.mp he
      exact List.forall_mem_cons.mpr ⟨⟨hashable_keyAt hk, _, _, hv⟩, ih hrest⟩

theorem forall_mem_both {p : Value × Value → Prop} {a b : Outcome Record}
    (h : Outcome.both (· ++ ·) a b = .ok r) (ha : ∀ x, a = .ok x → ∀ e ∈ x, p e)
    (hb : ∀ y, b = .ok y → ∀ e ∈ y, p e) : ∀ e ∈ r, p e := by
  obtain ⟨x, y, hx, hy, rfl⟩ := Outcome.both_ok.mp h
  exact List.forall_mem_append.mpr ⟨ha x hx, hb y hy⟩

mutual

theorem written_recordAt (entries : List (Node × Node)) (h : recordAt level entries = .ok r) :
    ∀ e ∈ r, WrittenEntry e := by
  rw [recordAt] at h
  exact forall_mem_both h (fun _ hx => written_mergedAt entries hx) fun _ hy => written_ownAt hy
termination_by (sizeOf entries, 1)

theorem written_mergedAt (entries : List (Node × Node)) (h : mergedAt level entries = .ok r) :
    ∀ e ∈ r, WrittenEntry e := by
  match entries, h with
  | [], h =>
    rw [mergedAt] at h
    cases h
    exact List.forall_mem_nil _
  | (k, v) :: rest, h =>
    unfold mergedAt at h
    split at h
    · refine forall_mem_both h (fun x hx => ?_) fun _ hy => written_mergedAt rest hy
      split at hx
      · exact written_recordAt _ hx
      · exact written_mergedItemsAt _ hx
      · cases hx
    · exact written_mergedAt rest h
termination_by (sizeOf entries, 0)

theorem written_mergedItemsAt (items : List Node) (h : mergedItemsAt level items = .ok r) :
    ∀ e ∈ r, WrittenEntry e := by
  match items, h with
  | [], h =>
    rw [mergedItemsAt] at h
    cases h
    exact List.forall_mem_nil _
  | .mapping _ es :: rest, h =>
    rw [mergedItemsAt] at h
    obtain ⟨own, later, hown, hlater, rfl⟩ := Outcome.both_ok.mp h
    exact List.forall_mem_append.mpr
      ⟨written_mergedItemsAt rest hlater, written_recordAt es hown⟩
  | .scalar _ _ :: _, h =>
    rw [mergedItemsAt] at h
    · cases h
    · simp
  | .sequence _ _ :: _, h =>
    rw [mergedItemsAt] at h
    · cases h
    · simp
termination_by (sizeOf items, 0)

end

theorem written_assign (hr : ∀ e ∈ r, WrittenEntry e) (he : WrittenEntry (k, v)) :
    ∀ e ∈ Value.assign r k v, WrittenEntry e := by
  induction r with
  | nil => exact List.forall_mem_singleton.mpr he
  | cons first rest ih =>
    obtain ⟨hfirst, hrest⟩ := List.forall_mem_cons.mp hr
    unfold Value.assign
    split
    · exact List.forall_mem_cons.mpr ⟨⟨hfirst.key, he.value⟩, hrest⟩
    · exact List.forall_mem_cons.mpr ⟨hfirst, ih hrest⟩

theorem written_ofEntries (hr : ∀ e ∈ r, WrittenEntry e) (h : Value.ofEntries r = .map es) :
    ∀ e ∈ es, WrittenEntry e := by
  have hfold : ∀ acc : Record, (∀ e ∈ acc, WrittenEntry e) → ∀ e ∈ r.foldl
      (fun acc e => Value.assign acc e.1 e.2) acc, WrittenEntry e := by
    clear h
    induction r with
    | nil => exact fun _ hacc => hacc
    | cons first rest ih =>
      obtain ⟨hfirst, hrest⟩ := List.forall_mem_cons.mp hr
      exact fun _ hacc => ih hrest _ (written_assign hacc hfirst)
  cases h
  exact hfold [] (List.forall_mem_nil _)

/-- The keys of a mapping of a document can be keys, and its values are values of the document. -/
theorem Written.entries (h : Written (.map es)) : ∀ e ∈ es, WrittenEntry e := by
  obtain ⟨level, n, h⟩ := h
  have hnot : ¬ misfit level n = .ok (.map es) := fun h => nomatch hashable_misfit h
  cases n with
  | scalar tag s =>
    rw [valueAt] at h
    exact absurd h hnot
  | sequence tag items =>
    unfold valueAt at h
    split at h
    case h_4 => exact absurd h hnot
    all_goals
      obtain ⟨_, -, heq⟩ := Outcome.map_ok.mp h
      cases heq
  | mapping tag entries =>
    unfold valueAt at h
    split at h
    · obtain ⟨r, hr, heq⟩ := Outcome.map_ok.mp h
      exact written_ofEntries (written_recordAt entries hr) heq
    · obtain ⟨_, -, heq⟩ := Outcome.map_ok.mp h
      cases heq
    · exact absurd h hnot

theorem Written.get? (h : Written (.map es)) (hget : Value.get? es key = some v) : Written v := by
  obtain ⟨e, he, rfl⟩ := Option.map_eq_some_iff.mp hget
  exact (h.entries e (List.mem_of_find?_eq_some he)).value

/-- What a text is read as is written in it, or it holds no document. -/
theorem written_read [Alphabet] (h : read s = .ok v) : v = .null ∨ Written v := by
  unfold read at h
  split at h
  · obtain ⟨node, -, h⟩ := bind_ok.mp h
    split at h
    · cases h
      exact .inl rfl
    · exact .inr ⟨_, _, mapError_ok.mp h⟩
  · cases h

end Farcall.Yaml
