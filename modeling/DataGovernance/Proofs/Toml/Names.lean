import DataGovernance.Proofs.Fallible
import DataGovernance.Proofs.Settings.Overlay
import DataGovernance.Toml.Reader

/-!
# The names in a TOML text

What a TOML text holds is put into tables name by name, so the names of the tables ascend, of the
whole one and of those right in it. The tables that a text opens come about only at the end, but
those that it has as values do while it is read: each entry that reading adds to what it has so far
has ascending names if it is such a value.

Key definitions: `Reads.Gives`, `Node.Ascends`, `Ascending`.
Key theorems: `gives_value`, `Ascending.define`, `Ascending.atHeader`, `orderly_read`.
-/

namespace DataGovernance.Toml

open Reads

/-! ### What a reading gives -/

namespace Reads

variable {α β : Type} {P : α → Prop} {Q : β → Prop}

/-- Whatever a reading gives has a property. -/
def Gives (r : Reads α) (P : α → Prop) : Prop := ∀ cs a rest, r cs = .ok (a, rest) → P a

theorem gives_true (r : Reads α) : Gives r fun _ => True := fun _ _ _ _ => trivial

theorem gives_pure {a : α} (h : P a) : Gives (pure a) P := by
  rintro cs _ _ ⟨⟩
  exact h

theorem gives_fail : Gives fail P := by
  rintro _ _ _ ⟨⟩

theorem Gives.bind {r : Reads α} {next : α → Reads β} (hr : Gives r P)
    (h : ∀ a, P a → Gives (next a) Q) : Gives (r >>= next) Q := by
  intro cs b rest hok
  obtain ⟨⟨a, others⟩, ha, hb⟩ := bind_eq_ok_iff.1 hok
  exact h a (hr _ _ _ ha) _ _ _ hb

/-- What a reading gives whatever it has read first. -/
theorem gives_bind {r : Reads α} {next : α → Reads β} (h : ∀ a, Gives (next a) Q) :
    Gives (r >>= next) Q :=
  (gives_true r).bind fun a _ => h a

theorem Gives.map {r : Reads α} {f : α → β} (hr : Gives r P) (h : ∀ a, P a → Q (f a)) :
    Gives (f <$> r) Q := by
  intro cs b rest hok
  obtain ⟨⟨a, others⟩, ha, hb⟩ := bind_eq_ok_iff.1 hok
  cases hb
  exact h a (hr _ _ _ ha)

theorem Gives.onFault {r : Reads α} (h : Gives r P) (f : Fault → Fault) :
    Gives (Reads.onFault f r) P := by
  intro cs a rest hok
  rw [Reads.onFault] at hok
  split at hok
  · rename_i heq
    exact h _ _ _ (heq.trans hok)
  · cases hok

theorem Gives.orElse {r s : Reads α} (hr : Gives r P) (hs : Gives s P) :
    Gives (Reads.orElse r s) P := by
  intro cs a rest hok
  rw [Reads.orElse] at hok
  split at hok
  · rename_i heq
    exact hr _ _ _ (heq.trans hok)
  · split at hok
    · cases hok
    · exact hs _ _ _ hok

theorem Gives.optional {r : Reads α} (h : Gives r P) :
    Gives (Reads.optional r) fun a => ∀ b, a = some b → P b := by
  refine .orElse (h.map ?_) (gives_pure ?_)
  · rintro a ha _ ⟨⟩
    exact ha
  · rintro _ ⟨⟩

theorem Gives.judged {r : Reads α} {f : α → Except String β} (hr : Gives r P)
    (h : ∀ a b, P a → f a = .ok b → Q b) : Gives (Reads.judged f r) Q := by
  intro cs b rest hok
  rw [Reads.judged] at hok
  split at hok
  · cases hok
  · rename_i hread
    split at hok
    · rename_i hf
      cases hok
      exact h _ _ (hr _ _ _ hread) hf
    · cases hok

theorem gives_ite {r s : Reads α} {c : Prop} [Decidable c] (hr : Gives r P) (hs : Gives s P) :
    Gives (if c then r else s) P := by
  split
  · exact hr
  · exact hs

end Reads

/-! ### Values -/

/-- A node that has ascending names if it is a value. -/
def Node.Ascends : Node → Prop
  | .value d _ => d.NamesAscend
  | _ => True

theorem pairwise_entriesToDatum : ∀ es : Entries,
    ((entriesToDatum es).map Prod.fst).Pairwise (· < ·)
  | [] => by rw [entriesToDatum]; exact .nil
  | (name, n) :: es => by
    rw [entriesToDatum]
    exact Datum.pairwise_put (pairwise_entriesToDatum es) name n.toDatum

theorem Node.Ascends.toDatum {n : Node} (h : n.Ascends) : n.toDatum.NamesAscend := by
  cases n with
  | value d kind => rwa [Node.toDatum]
  | table form es => rw [Node.toDatum]; exact pairwise_entriesToDatum es
  | tables earlier last => rw [Node.toDatum]; trivial

theorem namesAscend_of_signed? {negative : Bool} {n : Nat} {d : Datum}
    (h : signed? negative n = .ok d) : d.NamesAscend := by
  unfold signed? at h
  split at h <;> split at h <;> cases h <;> trivial

theorem gives_integer : Gives integer Datum.NamesAscend := by
  have hbase : ∀ base mark name, Gives (inBase base mark name) Datum.NamesAscend := by
    intro base mark name
    exact .onFault ((gives_true _).judged fun _ _ _ => namesAscend_of_signed?) _
  refine gives_bind fun _ => gives_ite (hbase _ _ _) ?_
  refine gives_bind fun _ => gives_ite (hbase _ _ _) ?_
  refine gives_bind fun _ => gives_ite (hbase _ _ _) ?_
  intro cs d rest hok
  dsimp only at hok
  split at hok
  · cases hok
  · split at hok
    · rename_i hsigned
      cases hok
      exact namesAscend_of_signed? hsigned
    · cases hok

theorem gives_finite : Gives finite Datum.NamesAscend := by
  intro cs d rest hok
  unfold finite at hok
  split at hok
  · cases hok
  · split at hok <;> split at hok <;> cases hok <;> trivial

theorem gives_fraction : Gives fraction Datum.NamesAscend := by
  refine .onFault (.orElse gives_finite (gives_bind fun negative => .orElse ?_ ?_)) _
  · exact gives_bind fun _ => gives_pure trivial
  · exact gives_bind fun _ => gives_pure trivial

theorem gives_moment : Gives moment Datum.NamesAscend := by
  intro cs d rest hok
  unfold moment at hok
  split at hok
  · cases hok
  · cases hok
    exact List.pairwise_singleton _ _

theorem gives_ofKind {kind : String} {r : Reads Datum} (h : Gives r Datum.NamesAscend) :
    Gives (ofKind kind r) Node.Ascends :=
  h.bind fun _ hd => gives_pure hd

theorem gives_word {s : String} {n : Node} (h : n.Ascends) : Gives (word s n) Node.Ascends :=
  gives_bind fun _ => gives_pure h

theorem gives_list (item : Reads Node) : Gives (list item) Node.Ascends := by
  refine gives_bind fun _ => .onFault (gives_bind fun items => ?_) _
  have hrest : Gives (do
      gaps
      inside "array" (expecting ["`]`"] (char ']'))
      return Node.value (.list ((items.getD []).map Node.toDatum)) "array") Node.Ascends :=
    gives_bind fun _ => gives_bind fun _ => gives_pure trivial
  exact gives_ite (gives_bind fun _ => hrest) hrest

theorem gives_inlineTable (item : Reads Node) : Gives (inlineTable item) Node.Ascends := by
  refine gives_bind fun _ => .onFault (gives_bind fun entries => gives_bind fun _ => ?_) _
  exact gives_pure (pairwise_entriesToDatum entries)

theorem gives_tooNested : Gives tooNested Node.Ascends := by
  unfold tooNested
  refine Gives.onFault ((gives_true _).judged ?_) _
  rintro _ _ _ ⟨⟩

theorem gives_valueWith {listRead tableRead : Reads Node} (hlist : Gives listRead Node.Ascends)
    (htable : Gives tableRead Node.Ascends) :
    Gives (valueWith listRead tableRead) Node.Ascends := by
  refine gives_bind fun next => ?_
  cases next with
  | none => exact gives_fail
  | some c =>
    have htext : Gives ((fun cs => Datum.text (String.ofList cs)) <$> text) Datum.NamesAscend :=
      (gives_true _).map fun _ _ => trivial
    refine gives_ite (gives_ofKind htext) (gives_ite hlist (gives_ite htable (gives_ite ?_ ?_)))
    · exact .orElse (gives_ofKind gives_moment)
        (.orElse (gives_ofKind gives_fraction) (gives_ofKind gives_integer))
    · refine gives_ite (.onFault (gives_ofKind gives_integer) _) ?_
      refine gives_ite (.onFault (gives_ofKind gives_fraction) _) ?_
      refine .onFault (.onFault ?_ _) _
      split
      · exact .onFault (gives_word (by trivial)) _
      · exact .onFault (gives_word (by trivial)) _
      · exact gives_word trivial
      · exact gives_word trivial
      · exact gives_fail

theorem gives_value (depth : Nat) : Gives (value depth) Node.Ascends := by
  cases depth with
  | zero => exact gives_valueWith gives_tooNested gives_tooNested
  | succ depth => exact gives_valueWith (gives_list _) (gives_inlineTable _)

/-! ### Entries -/

/-- The values among entries have ascending names. -/
def Ascending (es : Entries) : Prop := ∀ e ∈ es, e.2.Ascends

variable {es es' : Entries} {name key : String} {n v : Node} {within : Option (List String)}
  {done path : List String} {isOpen : Bool}

theorem Ascending.append (h : Ascending es) (hn : n.Ascends) : Ascending (es ++ [(name, n)]) :=
  List.forall_mem_append.2 ⟨h, List.forall_mem_singleton.2 hn⟩

theorem Ascending.putNode (h : Ascending es) (hn : n.Ascends) :
    Ascending (putNode name n es) := by
  induction es with
  | nil => exact List.forall_mem_singleton.2 hn
  | cons e es ih =>
    obtain ⟨he, hes⟩ := List.forall_mem_cons.1 h
    rw [Toml.putNode]
    split
    · exact List.forall_mem_cons.2 ⟨hn, hes⟩
    · exact List.forall_mem_cons.2 ⟨he, ih hes⟩

/-- A key with a value is added, or a table on the way to it put in the place of an earlier one. -/
theorem Ascending.define (h : Ascending es) (hv : v.Ascends)
    (hok : define within key v done isOpen path es = .ok es') : Ascending es' := by
  cases path with
  | nil =>
    rw [Toml.define] at hok
    split at hok
    · split at hok <;> cases hok
      exact h.append hv
    · cases hok
  | cons name path =>
    rw [Toml.define] at hok
    split at hok
    · obtain ⟨_, -, hadded⟩ := bind_eq_ok_iff.1 hok
      cases hadded
      exact h.append trivial
    · cases hok
    · obtain ⟨_, -, hput⟩ := bind_eq_ok_iff.1 hok
      cases hput
      exact h.putNode trivial
    · obtain ⟨_, -, hput⟩ := bind_eq_ok_iff.1 hok
      cases hput
      exact h.putNode trivial
    · split at hok <;> cases hok

theorem Ascending.atHeader {change : Entries → Except Clash Entries} (h : Ascending es)
    (hchange : ∀ es', change es = .ok es' → Ascending es')
    (hok : atHeader change done path es = .ok es') : Ascending es' := by
  cases path with
  | nil => exact hchange es' hok
  | cons name path =>
    rw [Toml.atHeader] at hok
    split at hok
    · obtain ⟨_, -, hadded⟩ := bind_eq_ok_iff.1 hok
      cases hadded
      exact h.append trivial
    · obtain ⟨_, -, hput⟩ := bind_eq_ok_iff.1 hok
      cases hput
      exact h.putNode trivial
    · obtain ⟨_, -, hput⟩ := bind_eq_ok_iff.1 hok
      cases hput
      exact h.putNode trivial
    · cases hok

theorem Ascending.openTable (h : Ascending es) (hok : openTable path key es = .ok es') :
    Ascending es' := by
  refine h.atHeader (fun es' hok => ?_) hok
  split at hok
  · cases hok
    exact h.append trivial
  · cases hok
    exact h.putNode trivial
  · cases hok

theorem Ascending.openItem (h : Ascending es) (hok : openItem path key es = .ok es') :
    Ascending es' := by
  refine h.atHeader (fun es' hok => ?_) hok
  split at hok
  · cases hok
    exact h.append trivial
  · cases hok
    exact h.putNode trivial
  · cases hok

/-! ### Lines -/

/-- The values in a sheet have ascending names. -/
def Sheet.Ascends (s : Sheet) : Prop := Ascending s.entries

variable {s s' : Sheet}

theorem Sheet.ascends_empty : Sheet.Ascends {} := by
  rintro _ ⟨⟩

theorem clashing_eq_ok_iff {α : Type} {x : Except Clash α} {a : α} :
    clashing x = .ok a ↔ x = .ok a := by
  cases x <;> simp [clashing]

theorem Sheet.Ascends.add (h : s.Ascends) (hn : n.Ascends) (hok : s.add path key n = .ok s') :
    s'.Ascends := by
  obtain ⟨entries, hentries, hend⟩ := bind_eq_ok_iff.1 (clashing_eq_ok_iff.1 hok)
  cases hend
  exact Ascending.atHeader h (fun _ => Ascending.define h hn) hentries

theorem Sheet.Ascends.head {isItem : Bool} (h : s.Ascends)
    (hok : s.head path key isItem = .ok s') : s'.Ascends := by
  rw [Sheet.head, clashing_eq_ok_iff] at hok
  split at hok
  · obtain ⟨entries, hentries, hend⟩ := bind_eq_ok_iff.1 hok
    cases hend
    exact Ascending.openItem h hentries
  · obtain ⟨entries, hentries, hend⟩ := bind_eq_ok_iff.1 hok
    cases hend
    exact Ascending.openTable h hentries

theorem gives_entry (h : s.Ascends) : Gives (entry s) Sheet.Ascends := by
  have hread : Gives (do
      let key ← keyPath
      settle do
        equals
        spaces
        let n ← value (depthLimit - 1)
        lineRest
        return (key, n)) fun (_, n) => n.Ascends := by
    refine gives_bind fun key => .onFault (gives_bind fun _ => gives_bind fun _ => ?_) _
    exact (gives_value _).bind fun n hn => gives_bind fun _ => gives_pure hn
  exact hread.judged fun _ _ hn hok => h.add hn hok

theorem gives_header (h : s.Ascends) : Gives (header s) Sheet.Ascends := by
  refine .onFault (gives_bind fun isItem => ?_) _
  exact (gives_true _).judged fun _ _ _ hok => h.head hok

theorem gives_line (h : s.Ascends) : Gives (line s) Sheet.Ascends := by
  have hnewline : Gives (line.newlineAfter s) Sheet.Ascends := gives_bind fun _ => gives_pure h
  refine gives_bind fun next => ?_
  split
  · exact gives_fail
  · exact .onFault (gives_bind fun _ => gives_bind fun _ => gives_pure h) _
  · exact .onFault (gives_header h) _
  · exact hnewline
  · exact hnewline
  · exact .onFault (gives_entry h) _

theorem gives_lines (k : Nat) (h : s.Ascends) : Gives (lines k s) Sheet.Ascends := by
  induction k generalizing s with
  | zero => exact gives_pure h
  | succ k ih =>
    refine (gives_line h).optional.bind fun next hnext => ?_
    cases next with
    | none => exact gives_pure h
    | some s => exact gives_bind fun _ => ih (hnext s rfl)

theorem gives_document : Gives document Sheet.Ascends := by
  intro cs s rest hok
  refine Gives.bind (gives_true _) (fun _ _ => gives_bind fun _ => ?_) cs s rest hok
  exact (gives_lines _ Sheet.ascends_empty).bind fun s hs => gives_bind fun _ => gives_pure hs

/-! ### The whole text -/

theorem lookup_entriesToDatum {es : Entries} {d : Datum}
    (h : (entriesToDatum es).lookup name = some d) : ∃ n, (name, n) ∈ es ∧ n.toDatum = d := by
  induction es with
  | nil => rw [entriesToDatum] at h; cases h
  | cons e es ih =>
    obtain ⟨m, n⟩ := e
    rw [entriesToDatum, Datum.lookup_put] at h
    split at h
    · rename_i heq
      cases h
      exact ⟨n, heq ▸ .head _, rfl⟩
    · obtain ⟨n', hmem, hn'⟩ := ih h
      exact ⟨n', .tail _ hmem, hn'⟩

/-- **What a TOML text holds is orderly**: its names ascend, and those of the tables right in it. -/
theorem orderly_read {text : String} {d : Datum} (h : read text = .ok d) : d.Orderly := by
  unfold read at h
  split at h
  · rename_i sheet rest hdocument
    cases h
    refine .table _ (pairwise_entriesToDatum _) fun name d hd => ?_
    obtain ⟨n, hmem, rfl⟩ := lookup_entriesToDatum hd
    have hsheet : sheet.Ascends := gives_document _ _ _ hdocument
    exact (hsheet _ hmem).toDatum
  · cases h

end DataGovernance.Toml
