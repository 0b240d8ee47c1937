import StreamOperator.Proofs.Json.Record

/-!
# Formats that are read back

A format is faithful when a value that is written is read as the same value, and when whatever is read
can be written and read again (`Decoder.Faithful`). For records both follow field by field: an object
that has a readable value for each field is read as the record of those values (`Record.Reads`), and a
record that was read has fields as their decoders yield them (`Record.Yields`).
-/

set_option autoImplicit false

namespace StreamOperator

/-! ## Results -/

theorem Except.bind_eq_ok {ε α β : Type} {x : Except ε α} {f : α → Except ε β} {b : β} :
    x >>= f = .ok b ↔ ∃ a, x = .ok a ∧ f a = .ok b := by
  cases x with
  | error e => simp [bind, Except.bind]
  | ok a => simp [bind, Except.bind]

theorem Except.map_eq_ok {ε α β : Type} {x : Except ε α} {f : α → β} {b : β} :
    f <$> x = .ok b ↔ ∃ a, x = .ok a ∧ f a = b := by
  cases x with
  | error e => simp [Functor.map, Except.map]
  | ok a => simp [Functor.map, Except.map]

variable {α β : Type}

/-! ## What decoders yield -/

/-- Whatever is read has a property. -/
def Decoder.Yields (decode : Decoder α) (P : α → Prop) : Prop :=
  ∀ value a, decode value = .ok a → P a

theorem Decoder.yields_true (decode : Decoder α) : decode.Yields fun _ => True := fun _ _ _ => trivial

theorem Decode.natural_yields (kind : String) (bits : Nat) :
    (Decode.natural kind bits).Yields fun n => n < Nat.pow 2 bits := by
  intro value n decoded
  cases value with
  | int i =>
    simp only [Decode.natural, Decoder.scalar] at decoded
    split at decoded
    · rename_i range
      obtain rfl := Except.ok.inj decoded
      have below : i < (Nat.pow 2 bits : Nat) := range.2
      omega
    · cases decoded
  | _ => cases decoded

theorem Decode.integer_yields (kind : String) (least greatest : Int) :
    (Decode.integer kind least greatest).Yields fun n => least ≤ n ∧ n ≤ greatest := by
  intro value n decoded
  cases value with
  | int i =>
    simp only [Decode.integer, Decoder.scalar] at decoded
    split at decoded
    · rename_i range
      obtain rfl := Except.ok.inj decoded
      exact range
    · cases decoded
  | _ => cases decoded

/-- What a text holds is read from a value. -/
theorem Decoder.exists_of_ofText {decode : Decoder α} {text : String} {a : α}
    (read : decode.ofText text = .ok a) : ∃ value, decode value = .ok a := by
  unfold ofText Json.readText at read
  obtain ⟨⟨_, _⟩, run, rfl⟩ := Except.map_eq_ok.1 read
  obtain ⟨⟨value, c⟩, -, run⟩ := Except.bind_eq_ok.1 run
  obtain ⟨⟨made, c'⟩, judged, run⟩ := Except.bind_eq_ok.1 run
  obtain ⟨⟨_, _⟩, -, run⟩ := Except.bind_eq_ok.1 run
  obtain ⟨rfl, -⟩ := Prod.mk.inj (Except.ok.inj run)
  refine ⟨value, ?_⟩
  cases decoded : decode value with
  | error e =>
    rw [decoded] at judged
    cases judged
  | ok b =>
    rw [decoded] at judged
    obtain ⟨rfl, -⟩ := Prod.mk.inj (Except.ok.inj judged)
    rfl

/-! ## Numbers that are written -/

theorem Decode.natural_encode {bits n : Nat} (kind : String) (below : n < Nat.pow 2 bits) :
    Decode.natural kind bits (Encode.natural n) = .ok n := by
  have range : (0 : Int) ≤ n ∧ (n : Int) < (Nat.pow 2 bits : Nat) :=
    ⟨Int.natCast_nonneg n, Int.ofNat_lt.2 below⟩
  show (if _ then _ else _) = _
  rw [if_pos range, Int.toNat_natCast]

theorem Decode.integer_encode {least greatest n : Int} (kind : String)
    (range : least ≤ n ∧ n ≤ greatest) : Decode.integer kind least greatest (.int n) = .ok n :=
  if_pos range

theorem Decode.optional_encode {decode : Decoder α} {encode : α → Json}
    (inverse : ∀ a, Decode.optional decode (encode a) = .ok (some a)) (a : Option α) :
    Decode.optional decode (Encode.optional encode a) = .ok a := by
  cases a with
  | none => rfl
  | some a => exact inverse a

/-! ## Records that are written -/

/-- An entry is found by its key if no other has it. -/
theorem Entries.get?_of_mem {entries : List (String × β)} (distinct : (entries.map Prod.fst).Nodup)
    {key : String} {value : β} (member : (key, value) ∈ entries) : get? key entries = some value := by
  induction entries with
  | nil => cases member
  | cons head rest ih =>
    obtain ⟨absent, distinct⟩ := List.nodup_cons.1 distinct
    rcases List.mem_cons.1 member with rfl | later
    · exact if_pos rfl
    · have differ : head.1 ≠ key := fun same => absent (same ▸ List.mem_map_of_mem later)
      rw [get?, if_neg differ, ih distinct later]

namespace Record

variable {r : Record (α → β)} {fields : List (String × Json)}

/-- No value under a key of the object is refused, and the record is built from those of its fields. -/
structure Reads (r : Record α) (fields : List (String × Json)) (a : α) : Prop where
  distinct : (fields.map Prod.fst).Nodup
  checked : ∀ key value, (key, value) ∈ fields → r.check key value = .ok ()
  built : r.build (fun key => Entries.get? key fields) = .ok a

theorem Reads.const (a : α) (distinct : (fields.map Prod.fst).Nodup) :
    (Record.const a).Reads fields a := ⟨distinct, fun _ _ _ => rfl, rfl⟩

/-- One more field is read, from its value in the object or because it may be absent. -/
theorem Reads.read {f : α → β} {field : Field α} {a : α} (reads : r.Reads fields f)
    (read : field.read (fun key => Entries.get? key fields) = .ok a) :
    (r.and field).Reads fields (f a) where
  distinct := reads.distinct
  checked key value member := by
    by_cases own : key = field.name
    · subst own
      rw [Field.read, Entries.get?_of_mem reads.distinct member] at read
      exact (if_pos rfl).trans (Except.map_eq_ok.2 ⟨a, read, rfl⟩)
    · exact (if_neg own).trans (reads.checked key value member)
  built := by
    rw [build_and, reads.built]
    exact Except.map_eq_ok.2 ⟨a, read, rfl⟩

/-- One more field is read if the object has a value for it. -/
theorem Reads.and {f : α → β} {field : Field α} {value : Json} {a : α} (reads : r.Reads fields f)
    (found : Entries.get? field.name fields = some value) (decoded : field.decode value = .ok a) :
    (r.and field).Reads fields (f a) :=
  reads.read ((Field.read_of_found found).trans decoded)

/-- The fields that nothing looks into are read as they stand. -/
theorem Reads.andOthers {names : List String} {r : Record (OtherFields names → β)}
    {f : OtherFields names → β} {o : OtherFields names} (reads : r.Reads fields f)
    (distinct : names.Nodup) (found : ∀ key ∈ names, Entries.get? key fields = o.values.get? key) :
    r.andOthers.Reads fields (f o) where
  distinct := reads.distinct
  checked key value member := by
    by_cases named : key ∈ names
    · exact if_pos named
    · exact (if_neg named).trans (reads.checked key value member)
  built := by
    rw [build_andOthers, reads.built, ← OtherFields.ofValues_eq distinct found]
    rfl

theorem checkAll_eq_ok_iff {r : Record α} :
    r.checkAll fields = .ok () ↔ ∀ entry ∈ fields, r.check entry.1 entry.2 = .ok () := by
  induction fields with
  | nil => simp [checkAll]
  | cons head rest ih =>
    obtain ⟨key, value⟩ := head
    rw [List.forall_mem_cons, ← ih, checkAll]
    cases r.check key value <;> simp

/-- An object is read if none of its values is refused and the record is built from them. -/
theorem ofFields_eq_ok_iff {r : Record α} {a : α} : r.ofFields fields = .ok a ↔
    (∀ entry ∈ fields, r.check entry.1 entry.2 = .ok ()) ∧
      r.build (fun key => Entries.get? key fields) = .ok a := by
  rw [ofFields, Except.bind_eq_ok, ← checkAll_eq_ok_iff]
  constructor
  · rintro ⟨_, checked, built⟩
    exact ⟨checked, built⟩
  · rintro ⟨checked, built⟩
    exact ⟨(), checked, built⟩

theorem Reads.ofFields {r : Record α} {a : α} (reads : r.Reads fields a) : r.ofFields fields = .ok a :=
  ofFields_eq_ok_iff.2 ⟨fun entry member => reads.checked entry.1 entry.2 member, reads.built⟩

/-- An object that was read can be read with another value, if that one is not refused either. -/
theorem ofFields_insert {r : Record α} {a b : α} {key : String} {value : Json}
    (read : r.ofFields fields = .ok a) (accepted : r.check key value = .ok ())
    (built : r.build (fun k => Entries.get? k (Entries.insert key value fields)) = .ok b) :
    r.ofFields (Entries.insert key value fields) = .ok b := by
  refine ofFields_eq_ok_iff.2 ⟨fun entry member => ?_, built⟩
  rcases Entries.mem_insert member with rfl | earlier
  · exact accepted
  · exact (ofFields_eq_ok_iff.1 read).1 entry earlier

/-- A record is built with one more field from what is read for that one. -/
theorem build_and_eq_ok_iff {field : Field α} {values : String → Option Json} {b : β} :
    (r.and field).build values = .ok b ↔
      ∃ f a, r.build values = .ok f ∧ field.read values = .ok a ∧ f a = b := by
  rw [build_and, Except.bind_eq_ok]
  simp only [Except.map_eq_ok, exists_and_left]

theorem build_andOthers_eq_ok_iff {names : List String} {r : Record (OtherFields names → β)}
    {values : String → Option Json} {b : β} : r.andOthers.build values = .ok b ↔
      ∃ f, r.build values = .ok f ∧ f (.ofValues names values) = b := Except.map_eq_ok

end Record

/-- A field that may be absent is read from what was written for it, be it left out or not. -/
theorem Field.read_map_of_written {γ : Type} {field : Field (Option α)} {encode : γ → Json} {g : γ → α}
    {values : String → Option Json} {x : Option γ} (absent : field.absent = some none)
    (inverse : ∀ c ∈ x, field.decode (encode c) = .ok (some (g c)))
    (found : values field.name = x.map encode) : field.read values = .ok (x.map g) := by
  rw [Field.read, found, absent]
  cases x with
  | none => rfl
  | some c => exact inverse c rfl

/-- A field that may be absent is read as it was written, be it left out or not. -/
theorem Field.read_of_written {field : Field (Option α)} {encode : α → Json}
    {values : String → Option Json} {x : Option α} (absent : field.absent = some none)
    (inverse : ∀ a ∈ x, field.decode (encode a) = .ok (some a))
    (found : values field.name = x.map encode) : field.read values = .ok x := by
  have read := Field.read_map_of_written (g := id) absent inverse found
  rwa [Option.map_id_fun, id] at read

theorem Record.Reads.object {r : Record α} {fields : List (String × Json)} {a : α}
    (reads : r.Reads fields a) (expected : String) : Record.object expected r (.obj fields) = .ok a :=
  reads.ofFields

theorem Record.Reads.struct {r : Record α} {fields : List (String × Json)} {a : α}
    (reads : r.Reads fields a) (name : String) : Record.struct name r (.obj fields) = .ok a :=
  reads.ofFields

/-! ## Records that were read -/

/-- Whatever is read for a field has a property, and so have the values it takes when it is absent. -/
structure Field.Yields (field : Field α) (Q : α → Prop) : Prop where
  decoded : field.decode.Yields Q
  absent : ∀ a, field.absent = some a → Q a
  absentAtEnd : ∀ a, field.absentAtEnd = some a → Q a

theorem Field.yields_true (field : Field α) : field.Yields fun _ => True :=
  ⟨field.decode.yields_true, fun _ _ => trivial, fun _ _ => trivial⟩

theorem Field.defaulted_yields {decode : Decoder α} {default : α} {Q : α → Prop} (name : String)
    (decoded : decode.Yields Q) (usual : Q default) : (defaulted name decode default).Yields Q :=
  ⟨decoded, fun _ same => Option.some.inj same ▸ usual, fun _ same => Option.some.inj same ▸ usual⟩

theorem Field.Yields.read {field : Field α} {Q : α → Prop} (yields : field.Yields Q)
    {values : String → Option Json} {a : α} (read : field.read values = .ok a) : Q a := by
  unfold Field.read at read
  split at read
  · exact yields.decoded _ _ read
  · rename_i absent
    exact yields.absent a (Except.ok.inj read ▸ absent)
  · cases read

/-- Whatever the record is read from, an object or a list, it has a property. -/
structure Record.Yields (r : Record α) (P : α → Prop) : Prop where
  built : ∀ values a, r.build values = .ok a → P a
  taken : ∀ short index items a rest, r.take short index items = .ok (a, rest) → P a

namespace Record

theorem yields_const {P : α → Prop} {a : α} (holds : P a) : (const a).Yields P where
  built _ _ read := Except.ok.inj read ▸ holds
  taken _ _ _ _ _ read := (Prod.mk.inj (Except.ok.inj read)).1 ▸ holds

theorem Yields.and {r : Record (α → β)} {field : Field α} {P : β → Prop} {Q : α → Prop}
    (yields : r.Yields fun f => ∀ a, Q a → P (f a)) (item : field.Yields Q) :
    (r.and field).Yields P where
  built values b read := by
    rw [build_and] at read
    obtain ⟨f, earlier, read⟩ := Except.bind_eq_ok.1 read
    obtain ⟨a, found, rfl⟩ := Except.map_eq_ok.1 read
    exact yields.built values f earlier a (item.read found)
  taken short index items b rest read := by
    obtain ⟨⟨f, left⟩, earlier, read⟩ := Except.bind_eq_ok.1 read
    have holds := yields.taken short index items f left earlier
    simp only at read
    split at read
    · obtain ⟨a, decoded, read⟩ := Except.bind_eq_ok.1 read
      obtain ⟨rfl, -⟩ := Prod.mk.inj (Except.ok.inj read)
      exact holds a (item.decoded _ a decoded)
    · rename_i absent
      obtain ⟨rfl, -⟩ := Prod.mk.inj (Except.ok.inj read)
      exact holds _ (item.absentAtEnd _ absent)
    · cases read

theorem Yields.struct {r : Record α} {P : α → Prop} (yields : r.Yields P) (name : String) :
    (Record.struct name r).Yields P := by
  intro value a read
  cases value with
  | obj fields =>
    obtain ⟨_, -, built⟩ := Except.bind_eq_ok.1 read
    exact yields.built _ a built
  | arr items =>
    obtain ⟨⟨b, rest⟩, taken, read⟩ := Except.bind_eq_ok.1 read
    simp only at read
    split at read
    · exact Except.ok.inj read ▸ yields.taken _ _ _ b rest taken
    · cases read
  | _ => cases read

end Record

/-- Under these names a value that was read is written again as it was, unless it was null. -/
def Decoder.Keeps (decode : Decoder α) (encode : α → Json) (names : List String) : Prop :=
  ∀ document a, decode document = .ok a → ∀ key ∈ names,
    (encode a).field? key = (document.field? key).filter (· ≠ .null)

/-- What nothing looks into is kept, if the record is built around it and it is written with the rest. -/
theorem Record.Yields.keeps {names : List String} {r : Record (OtherFields names → α)}
    {encode : α → Json} (others : α → OtherFields names)
    (yields : r.Yields fun f => ∀ o, others (f o) = o) (distinct : names.Nodup)
    (written : ∀ a, ∀ key ∈ names, (encode a).field? key = (others a).values.get? key)
    (expected : String) : (Record.object expected r.andOthers).Keeps encode names := by
  intro document a read key named
  cases document with
  | obj fields =>
    obtain ⟨-, built⟩ := ofFields_eq_ok_iff.1 read
    obtain ⟨f, earlier, rfl⟩ := build_andOthers_eq_ok_iff.1 built
    rw [written _ key named, yields.built _ f earlier, OtherFields.get?_ofValues distinct, if_pos named]
    rfl
  | _ => cases read

/-! ## Faithful formats -/

/-- Values in range are read back as they were written, and what was read from any value, or from any
text, is read again after it was written. -/
structure Decoder.Faithful (decode : Decoder α) (encode : α → Json) (InRange : α → Prop) : Prop where
  decode_encode : ∀ a, InRange a → decode (encode a) = .ok a
  again : ∀ document a, decode document = .ok a → decode (encode a) = .ok a
  againFromText : ∀ text a, decode.ofText text = .ok a → decode (encode a) = .ok a

/-- If only values in range are read, it is enough that those are read back. -/
theorem Decoder.Yields.faithful {decode : Decoder α} {encode : α → Json} {InRange : α → Prop}
    (yields : decode.Yields InRange) (inverse : ∀ a, InRange a → decode (encode a) = .ok a) :
    decode.Faithful encode InRange where
  decode_encode := inverse
  again document a read := inverse a (yields document a read)
  againFromText text a read := by
    obtain ⟨document, read⟩ := exists_of_ofText read
    exact inverse a (yields document a read)

end StreamOperator
