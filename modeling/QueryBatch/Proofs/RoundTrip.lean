import QueryBatch.Descriptor.Decode
import QueryBatch.Descriptor.Encode
import QueryBatch.Proofs.Outcome
import QueryBatch.Proofs.Rounding
import QueryBatch.Sql.Compile

/-! # Descriptors are read as they were written

A descriptor may be written in several ways: as an object or as an array, with one name of the
relations or the other, with numbers of either kind. It is always written back in the same way. What
is decoded from any value at all can be written, and what can be written is decoded again as it was.
This is a law of each decoder and of the way to write what it gives, and it goes from the items of a
list to the list, and from the parts of a descriptor to the descriptor.

* `Json.RoundTrips`: the law for a value; `Json.PartRoundTrips`: the law for a part that may be
  missing.
* `Descriptor.IsWritable`: the descriptors that can be written.
* `Descriptor.isWritable_of_decode`, `Descriptor.decode_encode`: what is read can be written, and
  what can be written is read again.
* `Descriptor.round_trips`: **a descriptor that was read is written so that it is read again**.
-/

namespace QueryBatch

open Outcome
open Json (Decoder)

/-! ### The law -/

namespace Json

variable {α : Type} {decode : Decoder α} {encode : α → Json} {p : α → Prop}

/-- **What is decoded is written so that it is decoded again.** The values that can be written are
those of `p`. -/
structure RoundTrips (decode : Decoder α) (encode : α → Json) (p : α → Prop) : Prop where
  sound : ∀ {j : Json} {a : α}, decode j = .ok a → p a
  ne_null : ∀ {a : α}, p a → encode a ≠ .null
  decode_encode : ∀ {a : α}, p a → decode (encode a) = .ok a

/-- The law for a part that may be missing, for which null is written. -/
structure PartRoundTrips (decode : Decoder α) (encode : α → Json) (p : α → Prop) : Prop where
  sound : ∀ {j : Json} {part : Option α}, Decoder.optional decode j = .ok part → ∀ a ∈ part, p a
  decode_orNull : ∀ {part : Option α}, (∀ a ∈ part, p a) →
    Decoder.optional decode (Descriptor.orNull encode part) = .ok part

theorem Decoder.optional_of_ne_null {j : Json} (h : j ≠ .null) :
    Decoder.optional decode j = (decode j).map some := by
  cases j with
  | null => exact absurd rfl h
  | _ => rfl

theorem RoundTrips.part (h : RoundTrips decode encode p) : PartRoundTrips decode encode p where
  sound := by
    intro j part hj a ha
    cases j with
    | null =>
      cases hj
      cases ha
    | _ =>
      obtain ⟨b, hb, rfl⟩ := map_eq_ok.mp hj
      cases ha
      exact h.sound hb
  decode_orNull := by
    rintro (_ | a) ha
    · rfl
    · have hp := ha a rfl
      rw [Descriptor.orNull, Decoder.optional_of_ne_null (h.ne_null hp), h.decode_encode hp]
      rfl

namespace PartRoundTrips

variable {fields : Keyed Json} {items : List Json} {name expected : String} {position : Nat}
  {part : Option α}

theorem field_sound (h : PartRoundTrips decode encode p)
    (hf : Decoder.field fields name decode = .ok part) : ∀ a ∈ part, p a := by
  unfold Decoder.field at hf
  split at hf
  · cases hf
    rintro a ⟨⟩
  · exact h.sound hf

theorem item_sound (h : PartRoundTrips decode encode p)
    (hf : Decoder.item items position expected decode = .ok part) : ∀ a ∈ part, p a := by
  unfold Decoder.item at hf
  split at hf
  · cases hf
  · exact h.sound hf

theorem field_eq_ok (h : PartRoundTrips decode encode p) (hp : ∀ a ∈ part, p a)
    (hf : Keyed.get? name fields = some (Descriptor.orNull encode part)) :
    Decoder.field fields name decode = .ok part := by
  rw [Decoder.field, hf]
  exact h.decode_orNull hp

end PartRoundTrips

/-! ### Values of one kind -/

theorem roundTrips_string : RoundTrips Decoder.string .string fun _ => True :=
  ⟨fun _ => trivial, fun _ => nofun, fun _ => rfl⟩

theorem roundTrips_bool : RoundTrips Decoder.bool .bool fun _ => True :=
  ⟨fun _ => trivial, fun _ => nofun, fun _ => rfl⟩

theorem ofNat_of_le {n : Nat} (h : n ≤ maxUnsigned) :
    ∃ fits, ofNat n = .number (.int n fits) := by
  have hlow : minSigned ≤ 0 := by decide
  have hfits : Fits n := ⟨by omega, by omega⟩
  exact ⟨hfits, by rw [ofNat, ofInt, Number.ofInt?_of_fits hfits]; rfl⟩

theorem roundTrips_count (width : String) :
    RoundTrips (Decoder.count width) ofNat fun n => n ≤ maxUnsigned where
  sound := by
    intro j n h
    unfold Decoder.count at h
    split at h
    · next i fits =>
      split at h
      · cases h
      · cases h
        have hle := fits.2
        omega
    · cases h
  ne_null := by
    intro n h
    obtain ⟨fits, heq⟩ := ofNat_of_le h
    rw [heq]
    nofun
  decode_encode := by
    intro n h
    obtain ⟨fits, heq⟩ := ofNat_of_le h
    rw [heq, Decoder.count, if_neg (by omega), Int.toNat_natCast]

theorem ofInt_isFinite {i : Int} (h : Fits i) : (Binary64.ofInt i).isFinite = true := by
  have hlow : -2 ^ 63 ≤ i := h.1
  have hhigh : i ≤ (2 ^ 64 - 1 : Nat) := h.2
  exact Magnitude.ofNat_isFinite (by omega)

theorem ofBinary64_of_isFinite {x : Binary64} (h : x.isFinite = true) :
    ofBinary64 x = .number (.double x h) := by
  rw [ofBinary64, Number.ofBinary64?_of_isFinite h]
  rfl

/-- Numbers are read from integers too, and always written as doubles. -/
theorem roundTrips_real : RoundTrips Decoder.real ofBinary64 fun x => x.isFinite = true where
  sound := by
    intro j x h
    unfold Decoder.real at h
    split at h
    · next n =>
      cases h
      cases n with
      | int i fits => exact ofInt_isFinite fits
      | double x finite => exact finite
    · cases h
  ne_null h := by
    rw [ofBinary64_of_isFinite h]
    nofun
  decode_encode h := by
    rw [ofBinary64_of_isFinite h]
    rfl

theorem roundTrips_variant {known : List (String × α)} {nameOf : α → String}
    (h : ∀ a, known.lookup (nameOf a) = some a) :
    RoundTrips (Decoder.variant known) (fun a => .string (nameOf a)) fun _ => True where
  sound _ := trivial
  ne_null _ := nofun
  decode_encode := by
    intro a _
    rw [Decoder.variant, Decoder.named, h]

/-- **A list of values that are read again** is read again. -/
theorem RoundTrips.list (h : RoundTrips decode encode p) :
    RoundTrips (Decoder.list decode) (fun l => .array (l.map encode)) fun l => ∀ a ∈ l, p a where
  sound := by
    intro j l hl a ha
    unfold Decoder.list at hl
    split at hl
    · obtain ⟨item, -, hitem⟩ := exists_of_forall₂_right (mapM_eq_ok.mp hl) ha
      exact h.sound hitem
    · cases hl
  ne_null _ := nofun
  decode_encode := by
    intro l hl
    refine mapM_eq_ok.mpr (List.forall₂_map_left_iff.mpr (List.forall₂_same.mpr fun a ha => ?_))
    exact h.decode_encode (hl a ha)

end Json

open Json (RoundTrips PartRoundTrips)

/-! ### The parts of a descriptor -/

theorem Tables.roundTrips : RoundTrips decode encode fun _ => True where
  sound _ := trivial
  ne_null := by
    rintro (name | names) -
    · nofun
    · nofun
  decode_encode := by
    rintro (name | names) -
    · rfl
    · have hnames := Json.roundTrips_string.list.decode_encode (a := names) fun _ _ => trivial
      simp only [encode, Json.ofStrings, decode, hnames]

/-- The weight of a column, if it has one. -/
def DataField.weight? : DataField → Option Binary64
  | .plain _ => none
  | .weighted _ weight => weight

/-- Its weight, if there is one, is a number. -/
def DataField.IsWritable (f : DataField) : Prop := ∀ weight ∈ f.weight?, weight.isFinite = true

theorem DataField.roundTrips : RoundTrips decode encode IsWritable where
  sound := by
    intro j f h
    unfold decode at h
    split at h
    · cases h
      rintro weight ⟨⟩
    · obtain ⟨name, -, h⟩ := bind_eq_ok.mp h
      cases name with
      | none => cases h
      | some name =>
        obtain ⟨weight, hweight, h⟩ := bind_eq_ok.mp h
        cases h
        exact Json.roundTrips_real.part.field_sound hweight
    · cases h
  ne_null := by
    rintro (name | ⟨name, weight | _⟩) -
    · nofun
    · nofun
    · nofun
  decode_encode := by
    rintro (name | ⟨name, weight⟩) h
    · rfl
    · -- a weight that is left out is as good as one that is null
      have hname : ∀ r, Decoder.field (("field", .string name) :: r) "field" Decoder.string =
          .ok (some name) := fun r =>
        Json.roundTrips_string.part.field_eq_ok (fun _ _ => trivial) rfl
      cases weight with
      | none =>
        rw [encode, decode, hname]
        rfl
      | some weight =>
        have hfinite : ∀ x ∈ some weight, x.isFinite = true := h
        rw [encode, decode, hname, Json.roundTrips_real.part.field_eq_ok hfinite rfl]
        rfl

/-- The weights are numbers. -/
def DataFields.IsWritable : DataFields → Prop
  | .one _ => True
  | .many fields => ∀ f ∈ fields, f.IsWritable

theorem DataFields.roundTrips : RoundTrips decode encode IsWritable where
  sound := by
    intro j f h
    unfold decode at h
    split at h
    · cases h
      trivial
    · split at h
      · next hfields =>
        cases h
        exact DataField.roundTrips.list.sound hfields
      · cases h
  ne_null := by
    rintro (name | fields) -
    · nofun
    · nofun
  decode_encode := by
    rintro (name | fields) h
    · rfl
    · simp only [encode, decode, DataField.roundTrips.list.decode_encode h]

theorem HandWritten.roundTrips : RoundTrips decode encode fun _ => True where
  sound _ := trivial
  ne_null _ := nofun
  decode_encode := by
    rintro ⟨query⟩ -
    have hquery : Decoder.field [("query", Json.ofString? query)] "query" Decoder.string =
        .ok query :=
      Json.roundTrips_string.part.field_eq_ok (fun _ _ => trivial) (by cases query <;> rfl)
    rw [encode, decode, hquery]
    rfl

theorem Aggregation.roundTrips_list :
    RoundTrips (Decoder.list (Decoder.variant names)) (fun l => .ofStrings (l.map name))
      fun _ => True := by
  have hone : RoundTrips (Decoder.variant names) (fun a => .string a.name) fun _ => True :=
    Json.roundTrips_variant (by rintro (_ | _ | _) <;> rfl)
  simpa [Json.ofStrings, Function.comp_def] using hone.list

theorem Connective.roundTrips :
    RoundTrips (Decoder.variant names) (fun c => .string c.name) fun _ => True :=
  Json.roundTrips_variant (by rintro (_ | _) <;> rfl)

theorem Kind.roundTrips :
    RoundTrips (Decoder.variant names) (fun k => .string k.name) fun _ => True :=
  Json.roundTrips_variant (by rintro (_ | _ | _ | _) <;> rfl)

namespace Descriptor

/-- Any value but null, for which the part would be missing. -/
theorem partRoundTrips_value : PartRoundTrips anyValue (fun j => j) fun j => j ≠ .null where
  sound := by
    intro j part h a ha
    cases j with
    | null =>
      cases h
      cases ha
    | _ =>
      cases h
      cases ha
      nofun
  decode_orNull := by
    rintro (_ | j) h
    · rfl
    · rw [orNull, Decoder.optional_of_ne_null (h j rfl)]
      rfl

/-! ### Descriptors -/

/-- **Descriptors that can be written**: the counts are those of 64 bits, the numbers are finite,
and the value is not null. -/
structure IsWritable (d : Descriptor) : Prop where
  size : ∀ n ∈ d.size, n ≤ Json.maxUnsigned
  offset : ∀ n ∈ d.offset, n ≤ Json.maxUnsigned
  aggregationSize : ∀ n ∈ d.aggregationSize, n ≤ Json.maxUnsigned
  interval : ∀ x ∈ d.interval, x.isFinite = true
  vector : ∀ v ∈ d.vector, ∀ x ∈ v, x.isFinite = true
  dataFields : ∀ f ∈ d.dataFields, f.IsWritable
  value : ∀ j ∈ d.value, j ≠ .null

theorem isWritable_of_ofFields {fields : Keyed Json} {d : Descriptor}
    (h : ofFields fields = .ok d) : d.IsWritable := by
  simp only [ofFields, bind_eq_ok, pure_eq_ok, Except.ok.injEq] at h
  obtain ⟨aggregationSize, haggregationSize, _, -, dataFields, hdataFields, _, -, _, -, offset,
    hoffset, _, -, _, -, _, -, interval, hinterval, _, -, vector, hvector, size, hsize, _, -, _, -,
    _, -, _, -, value, hvalue, _, -, _, -, rfl⟩ := h
  exact {
    size := (Json.roundTrips_count _).part.field_sound hsize
    offset := (Json.roundTrips_count _).part.field_sound hoffset
    aggregationSize := (Json.roundTrips_count _).part.field_sound haggregationSize
    interval := Json.roundTrips_real.part.field_sound hinterval
    vector := Json.roundTrips_real.list.part.field_sound hvector
    dataFields := DataFields.roundTrips.part.field_sound hdataFields
    value := partRoundTrips_value.field_sound hvalue }

theorem isWritable_of_ofItems {items : List Json} {d : Descriptor} (h : ofItems items = .ok d) :
    d.IsWritable := by
  simp only [ofItems, bind_eq_ok, pure_eq_ok] at h
  obtain ⟨_, -, _, -, _, -, _, -, value, hvalue, dataFields, hdataFields, _, -, _, -, _, -, _, -,
    size, hsize, offset, hoffset, _, -, _, -, _, -, vector, hvector, _, -, interval, hinterval,
    aggregationSize, haggregationSize, h⟩ := h
  split at h
  · cases h
  cases h
  exact {
    size := (Json.roundTrips_count _).part.item_sound hsize
    offset := (Json.roundTrips_count _).part.item_sound hoffset
    aggregationSize := (Json.roundTrips_count _).part.item_sound haggregationSize
    interval := Json.roundTrips_real.part.item_sound hinterval
    vector := Json.roundTrips_real.list.part.item_sound hvector
    dataFields := DataFields.roundTrips.part.item_sound hdataFields
    value := partRoundTrips_value.item_sound hvalue }

/-- **What is read can be written.** -/
theorem isWritable_of_decode {j : Json} {d : Descriptor} (h : decode j = .ok d) :
    d.IsWritable := by
  unfold decode at h
  split at h
  · exact isWritable_of_ofFields h
  · exact isWritable_of_ofItems h
  · cases h

theorem decodeTable_eq_ok {fields : Keyed Json} {index tables : Option Tables}
    (hi : Keyed.get? "index" fields = none)
    (ht : Keyed.get? "table" fields = some (orNull Tables.encode tables)) :
    decodeTable fields index = .ok tables := by
  rw [decodeTable, if_pos (by rw [Keyed.contains, ht]; rfl),
    if_neg (by rw [Keyed.contains, hi]; exact Bool.false_ne_true)]
  exact Tables.roundTrips.part.field_eq_ok (fun _ _ => trivial) ht

/-- **What can be written is read again.** -/
theorem decode_encode {d : Descriptor} (h : d.IsWritable) : decode d.encode = .ok d := by
  have htext := Json.roundTrips_string.part
  have hcount := (Json.roundTrips_count "u64").part
  have hreal := Json.roundTrips_real
  unfold decode encode
  simp only [ofFields, bind_eq_ok, pure_eq_ok, Except.ok.injEq]
  exact ⟨_, hcount.field_eq_ok h.aggregationSize rfl,
    _, Aggregation.roundTrips_list.part.field_eq_ok (fun _ _ => trivial) rfl,
    _, DataFields.roundTrips.part.field_eq_ok h.dataFields rfl,
    _, HandWritten.roundTrips.part.field_eq_ok (fun _ _ => trivial) rfl,
    _, Json.roundTrips_bool.part.field_eq_ok (fun _ _ => trivial) rfl,
    _, hcount.field_eq_ok h.offset rfl,
    _, htext.field_eq_ok (fun _ _ => trivial) rfl,
    _, Json.roundTrips_string.list.part.field_eq_ok (fun _ _ _ _ => trivial) rfl,
    _, rfl,
    _, hreal.part.field_eq_ok h.interval rfl,
    _, Connective.roundTrips.part.field_eq_ok (fun _ _ => trivial) rfl,
    _, hreal.list.part.field_eq_ok h.vector rfl,
    _, hcount.field_eq_ok h.size rfl,
    _, htext.field_eq_ok (fun _ _ => trivial) rfl,
    _, htext.field_eq_ok (fun _ _ => trivial) rfl,
    _, decodeTable_eq_ok rfl rfl,
    _, Kind.roundTrips.part.field_eq_ok (fun _ _ => trivial) rfl,
    _, partRoundTrips_value.field_eq_ok h.value rfl,
    _, htext.field_eq_ok (fun _ _ => trivial) rfl,
    _, htext.field_eq_ok (fun _ _ => trivial) rfl,
    rfl⟩

/-- **A descriptor that was read is written so that it is read again**, whatever it was read from.
So it means the same before and after: it resolves to the same query, or is refused with the same
error, and compiles to the same statement. -/
theorem round_trips {j : Json} {d : Descriptor} (h : decode j = .ok d) :
    decode d.encode = .ok d ∧
    ∀ d', decode d.encode = .ok d' → ∀ embedded defaultSize,
      d'.resolve embedded defaultSize = d.resolve embedded defaultSize ∧
      ∀ countsRows, d'.compile embedded defaultSize countsRows =
        d.compile embedded defaultSize countsRows := by
  have hagain := decode_encode (isWritable_of_decode h)
  refine ⟨hagain, fun d' hd' _ _ => ?_⟩
  cases hagain.symm.trans hd'
  exact ⟨rfl, fun _ => rfl⟩

/-- A descriptor as an array, with columns of all shapes and numbers of both kinds. -/
def listedDescriptor : Json :=
  .array [.string "near", .array [.string "books"], .object [("search", .null)], .null,
    .object [("a", .array [.null, .ofInt 1])],
    .array [.string "title", .object [("field", .string "author")],
      .object [("field", .string "genre"), ("weight", .ofInt (-2)), ("note", .bool true)]],
    .string "and", .null, .null, .string "year > 1900", .ofNat 18446744073709551615, .ofNat 0,
    .array [.null], .bool true, .string "embedding",
    .array [.ofInt 3, .ofBinary64 (.real true .zero)], .array [], .ofNat 10, .null]

/-- A descriptor as an object that has the other name of the relations. -/
def indexedDescriptor : Json :=
  .object [("id", .string "years"), ("index", .string "books"), ("note", .ofInt 1),
    ("type", .string "range"), ("value", .object [("start", .ofInt 1900)])]

/-- Both are read again as they were, the one with an interval that is a double now, the other with
its relation under the usual name. -/
theorem round_trips_listed_indexed : ∃ d d',
    decode listedDescriptor = .ok d ∧ decode indexedDescriptor = .ok d' ∧
    decode d.encode = .ok d ∧ decode d'.encode = .ok d' ∧
    d.encode.field? "interval" = some (.ofBinary64 (.ofNat 10)) ∧
    d'.encode.field? "table" = some (.string "books") ∧ d'.encode.field? "index" = none := by
  have hlisted : (decode listedDescriptor).map (fun d => d.encode.field? "interval") =
      .ok (some (.ofBinary64 (.ofNat 10))) := by
    decide +kernel
  have hindexed : (decode indexedDescriptor).map (fun d =>
      (d.encode.field? "table", d.encode.field? "index")) = .ok (some (.string "books"), none) := by
    decide +kernel
  obtain ⟨d, hd, hinterval⟩ := map_eq_ok.mp hlisted
  obtain ⟨d', hd', hnames⟩ := map_eq_ok.mp hindexed
  obtain ⟨htable, hindex⟩ := Prod.mk.inj hnames
  exact ⟨d, d', hd, hd', (round_trips hd).1, (round_trips hd').1, hinterval, htable, hindex⟩

end Descriptor

end QueryBatch
