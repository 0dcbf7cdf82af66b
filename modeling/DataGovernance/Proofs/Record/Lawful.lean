import DataGovernance.Proofs.Json.RoundTrip
import DataGovernance.Proofs.Time.RoundTrip
import DataGovernance.Record.Fields

/-!
# Lawful codecs and shapes

A codec is lawful when it reads back what it writes and writes no number of more than 64 bits. The
text of what a lawful codec writes is read back, with blanks behind it or not. A shape is lawful
when its keys differ, its fields have lawful codecs, and putting the fields of a record one after
another into the blank record gives that record.

Key definitions: `Codec.Lawful`, `Codec.NeverNull`, `Shape.Lawful`.
Key theorems: `Codec.Lawful.ofText_write`, `Shape.Lawful.codec`.
-/

namespace DataGovernance.Record

open Json

namespace Codec

variable {α : Type} {c : Codec α}

/-- A codec that reads back what it writes, and whose numbers have 64 bits. -/
structure Lawful (c : Codec α) : Prop where
  faithful : c.Faithful
  inRange : ∀ a, (c.encode a).InRange

/-- A codec that writes no null, so that null can stand for none. -/
def NeverNull (c : Codec α) : Prop := ∀ a, c.encode a ≠ .null

/-! ### Scalars and words -/

theorem lawful_text : text.Lawful := ⟨faithful_text, fun _ => trivial⟩

theorem neverNull_text : text.NeverNull := by
  simp [NeverNull, text]

theorem lawful_flag : flag.Lawful := ⟨faithful_flag, fun _ => trivial⟩

theorem lawful_natural (kind : String) {bound : Nat} (h : bound ≤ wordSize) :
    (natural kind bound).Lawful where
  faithful := faithful_natural kind bound
  inRange n := by
    have hn := n.isLt
    simp only [natural, Value.InRange]
    omega

theorem lawful_timestamp : timestamp.Lawful where
  faithful source t := by simp [timestamp, Document.ofValue, Time.read_write]
  inRange _ := trivial

theorem neverNull_timestamp : timestamp.NeverNull := by
  simp [NeverNull, timestamp]

theorem lawful_word (α : Type) [Vocabulary α] : (word α).Lawful :=
  ⟨faithful_word α, fun _ => trivial⟩

theorem neverNull_word (α : Type) [Vocabulary α] : (word α).NeverNull := by
  simp [NeverNull, word]

/-! ### Options and lists -/

theorem Lawful.option (h : c.Lawful) (hn : c.NeverNull) : (Codec.option c).Lawful where
  faithful := faithful_option h.faithful hn
  inRange
    | none => trivial
    | some a => h.inRange a

theorem itemsInRange_map {items : List α} {write : α → Value} (h : ∀ a, (write a).InRange) :
    Value.ItemsInRange (items.map write) := by
  induction items with
  | nil => trivial
  | cons a items ih => exact ⟨h a, ih⟩

theorem Lawful.list (h : c.Lawful) : (Codec.list c).Lawful where
  faithful := faithful_list h.faithful
  inRange _ := itemsInRange_map h.inRange

/-- **What a lawful codec writes is read back from its text**, in every style whose breaks are
blanks and with blanks behind it. -/
theorem Lawful.ofText_write (h : c.Lawful) {style : Style} (hs : style.Blank) (a : α)
    {blanks : List Char} (hb : ∀ ch ∈ blanks, Token.isSpace ch = true) :
    c.ofText (String.ofList ((c.encode a).write style 0 ++ blanks)) = .ok a := by
  simp only [Codec.ofText, Reading.ofText_write hs 0 (h.inRange a) hb, h.faithful .text a]
  rfl

end Codec

/-! ### Records -/

namespace Shape

variable {ρ : Type} {shape : Shape ρ}

/-- Puts fields of a record into a draft, one after another. -/
def fill (fields : List (Field ρ)) (r draft : ρ) : ρ :=
  fields.foldl (fun draft f => f.set (f.get r) draft) draft

/-- A shape whose fields can be told apart, are lawful and make up the record. -/
structure Lawful (shape : Shape ρ) : Prop where
  nodup_names : (shape.fields.map Field.name).Nodup
  lawful_fields : ∀ f ∈ shape.fields, f.codec.Lawful
  fill_blank : ∀ r, fill shape.fields r shape.blank = r

/-- A key finds its field. -/
theorem Lawful.field?_eq (h : shape.Lawful) {before after : List (Field ρ)} {f : Field ρ}
    (hfields : shape.fields = before ++ f :: after) : shape.field? f.name = some f := by
  have hnames := h.nodup_names
  rw [hfields, List.map_append, List.map_cons, List.nodup_append] at hnames
  have hbefore : before.find? (fun g => g.name == f.name) = none := by
    rw [List.find?_eq_none]
    intro g hg
    simpa using hnames.2.2 g.name (List.mem_map_of_mem hg) f.name (by simp)
  rw [field?, hfields, List.find?_append, hbefore, List.find?_cons_of_pos (by simp)]
  rfl

/-- Once every field has been seen, the draft is the record. -/
theorem decodeMembers_nil {source : Source} {seen : List String} (draft : ρ)
    (h : ∀ f ∈ shape.fields, f.name ∈ seen) :
    shape.decodeMembers source seen draft [] = .ok draft := by
  have hfind : shape.fields.find? (fun f => f.needed && !seen.contains f.name) = none := by
    rw [List.find?_eq_none]
    intro f hf
    simp [h f hf]
  rw [decodeMembers, hfind]

/-- Written members behind the ones that have been read fill up the draft. -/
theorem Lawful.decodeMembers_eq (h : shape.Lawful) (source : Source) (r : ρ) :
    ∀ (fs before : List (Field ρ)) (draft : ρ), shape.fields = before ++ fs →
      shape.decodeMembers source (before.map Field.name).reverse draft
        (Document.ofMembers (fs.map fun f => (f.name, f.codec.encode (f.get r)))) =
      .ok (fill fs r draft)
  | [], before, draft, hfields => by
    refine decodeMembers_nil draft fun f hf => ?_
    rw [hfields, List.append_nil] at hf
    simpa using ⟨f, hf, rfl⟩
  | f :: fs, before, draft, hfields => by
    -- the fields before this one are the ones that have been seen
    have hfield := h.field?_eq hfields
    have hnames := h.nodup_names
    have hunseen : (before.map Field.name).reverse.contains f.name = false := by
      rw [hfields, List.map_append, List.map_cons, List.nodup_append] at hnames
      have hnot : f.name ∉ before.map Field.name :=
        fun hmem => hnames.2.2 f.name hmem f.name (by simp) rfl
      simpa using hnot
    have hdecode := (h.lawful_fields f (by simp [hfields])).faithful source (f.get r)
    have hrest := h.decodeMembers_eq source r fs (before ++ [f]) (f.set (f.get r) draft)
      (by simp [hfields])
    rw [List.map_append, List.reverse_append] at hrest
    simp only [List.map_cons, Document.ofMembers, decodeMembers, Document.key, ofSyntax, hfield,
      hunseen, hdecode, bind, Except.bind]
    exact hrest

/-- The codec of a lawful shape is lawful. -/
theorem Lawful.codec (h : shape.Lawful) : shape.codec.Lawful where
  faithful source r := by
    have hread := h.decodeMembers_eq source r shape.fields [] shape.blank rfl
    rw [h.fill_blank] at hread
    exact hread
  inRange r := by
    have hmembers : ∀ fs : List (Field ρ), (∀ f ∈ fs, f.codec.Lawful) →
        Value.MembersInRange (fs.map fun f => (f.name, f.codec.encode (f.get r))) := by
      intro fs
      induction fs with
      | nil => intro _; trivial
      | cons f fs ih =>
        intro hfs
        exact ⟨(hfs f (by simp)).inRange _, ih fun g hg => hfs g (by simp [hg])⟩
    exact hmembers shape.fields h.lawful_fields

theorem neverNull_codec (shape : Shape ρ) : shape.codec.NeverNull := by
  simp [Codec.NeverNull, codec, encode]

end Shape

end DataGovernance.Record
