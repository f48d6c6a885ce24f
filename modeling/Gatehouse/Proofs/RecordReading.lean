import Gatehouse.Proofs.Lookup
import Gatehouse.Proofs.ScalarReading

/-!
A record that is written as an object of its fields, each once, is read as their values. The
reader goes from member to member and keeps what it has read; nothing of it is lost, and no
field is missing at the end.
-/

namespace Gatehouse.Json

/-- A value that is written in an object is read as a slot. -/
def Shape.Reads (shape : Shape) (v : Value) (slot : Slot) : Prop :=
  ∀ b rest, IsMark b → shape.read (bytesOf v.write ++ b :: rest) = .ok (slot, b :: rest)

theorem Shape.reads_text (s : String) : Shape.text.Reads (.text s) (.text s) := by
  intro b rest _
  exact bind_apply_of_ok (text_writeText s (b :: rest))

theorem Shape.reads_name (s : String) : Shape.name.Reads (.text s) (.text s) := by
  intro b rest _
  exact bind_apply_of_ok (name_writeText s (b :: rest))

theorem Shape.reads_integer {i : Int} (low : Bounds.minSigned ≤ i) (high : i ≤ Bounds.maxSigned) :
    Shape.integer.Reads (.ofInt i) (.integer i) := by
  intro b rest mark
  exact bind_apply_of_ok (integer_ofInt low high mark rest)

theorem Shape.reads_optionalText (s : String) : Shape.optionalText.Reads (.text s) (.text s) := by
  intro b rest _
  have read : (do return .text (← Json.text) : Reader Slot) (bytesOf (writeText s) ++ b :: rest)
      = .ok (.text s, b :: rest) := bind_apply_of_ok (text_writeText s (b :: rest))
  change optional _ (bytesOf (writeText s) ++ b :: rest) = _
  rw [bytesOf_writeText] at read ⊢
  rw [optional, bind_apply_of_ok (peek_cons rfl _)]
  exact read

theorem Shape.reads_null : Shape.optionalText.Reads .null .absent := fun _ _ _ => rfl

/-- A field with its value, and the slot as which that is read. -/
structure Written where
  field : Field
  value : Value
  slot : Slot
  reads : field.shape.Reads value slot

def Written.member (w : Written) : String × Value := (w.field.name, w.value)

def Written.entry (w : Written) : String × Slot := (w.field.name, w.slot)

/-- The bytes of a member, and what stands behind it. -/
def Written.bytes (w : Written) (behind : Bytes) : Bytes :=
  bytesOf (writeText w.field.name) ++ 58 :: (bytesOf w.value.write ++ behind)

/-- The bytes of members behind the first, up to the closing bracket and on. -/
def bytesOfMembers (ws : List Written) (rest : Bytes) : Bytes :=
  bytesOf (Value.writeMembers (ws.map Written.member)) ++ 125 :: rest

theorem bytesOfMembers_cons (w : Written) (ws : List Written) (rest : Bytes) :
    bytesOfMembers (w :: ws) rest = 44 :: w.bytes (bytesOfMembers ws rest) := by
  simp only [bytesOfMembers, List.map_cons, Written.member, Value.writeMembers, bytesOf_cons,
    bytesOf_append, List.append_assoc, Written.bytes]
  rfl

theorem bytesOf_object (w : Written) (ws : List Written) (rest : Bytes) :
    bytesOf (Value.object ((w :: ws).map Written.member)).write ++ rest
      = 123 :: w.bytes (bytesOfMembers ws rest) := by
  simp only [bytesOfMembers, List.map_cons, Written.member, Value.write, bytesOf_cons,
    bytesOf_append, List.append_assoc, Written.bytes]
  rfl

theorem length_lt_length_bytesOfMembers (ws : List Written) (rest : Bytes) :
    ws.length < (bytesOfMembers ws rest).length := by
  induction ws with
  | nil => exact Nat.zero_lt_succ _
  | cons w ws ih =>
      rw [bytesOfMembers_cons, List.length_cons, List.length_cons, Written.bytes,
        List.length_append, List.length_cons, List.length_append]
      omega

/-- Behind a value in an object stands a mark. -/
theorem bytesOfMembers_mark (ws : List Written) (rest : Bytes) :
    ∃ b rest', IsMark b ∧ bytesOfMembers ws rest = b :: rest' := by
  cases ws with
  | nil => exact ⟨125, rest, .inr rfl, rfl⟩
  | cons w ws => exact ⟨44, _, .inl rfl, bytesOfMembers_cons w ws rest⟩

theorem more_first (w : Written) (behind : Bytes) :
    more 123 true (w.bytes behind) = .ok (true, w.bytes behind) := by
  rw [Written.bytes, bytesOf_writeText, more, bind_apply_of_ok (peek_cons rfl _)]
  rfl

theorem more_next (w : Written) (behind : Bytes) :
    more 123 false (44 :: w.bytes behind) = .ok (true, w.bytes behind) := by
  rw [Written.bytes, bytesOf_writeText, more, bind_apply_of_ok (peek_cons rfl _)]
  rfl

theorem more_end (rest : Bytes) : more 123 false (125 :: rest) = .ok (false, 125 :: rest) := by
  rw [more, bind_apply_of_ok (peek_cons rfl _)]
  rfl

theorem colon_cons (rest : Bytes) : colon (58 :: rest) = .ok ((), rest) := by
  rw [colon, bind_apply_of_ok (peek_cons rfl _)]
  rfl

theorem within_of_ok {α : Type} {path : String} {read : Reader α} {bs rest : Bytes} {a : α}
    (h : read bs = .ok (a, rest)) : within path read bs = .ok (a, rest) := by
  rw [within, h]

section
variable {ws : List Written}

/-- A field is found by its name where no two have one name. -/
theorem find?_field (once : (ws.map (·.field.name)).Nodup) {w : Written} (hw : w ∈ ws) :
    (ws.map (·.field)).find? (·.name = w.field.name) = some w.field := by
  have names : ((ws.map (·.field)).map Field.name).Nodup := by rwa [List.map_map]
  exact find?_key names (List.mem_map_of_mem hw)

theorem lookup_entry_of_ne (v w : Written) (got : Entries) (other : w.field.name ≠ v.field.name) :
    List.lookup w.field.name (v.entry :: got) = got.lookup w.field.name := by
  rw [Written.entry, List.lookup_cons, beq_false_of_ne other]

theorem lookup_entry_self (w : Written) (got : Entries) :
    List.lookup w.field.name (w.entry :: got) = some w.slot := by
  rw [Written.entry, List.lookup_cons, beq_self_eq_true]

/-- The last entry of a name counts, and there is one only. -/
theorem lookup_reverse (once : (ws.map (·.field.name)).Nodup) {w : Written} (hw : w ∈ ws) :
    (ws.map Written.entry).reverse.lookup w.field.name = some w.slot := by
  induction ws with
  | nil => cases hw
  | cons v ws ih =>
      obtain ⟨out, once⟩ := List.nodup_cons.1 once
      rw [List.map_cons, List.reverse_cons, List.lookup_append]
      rcases List.mem_cons.1 hw with rfl | hw
      · have none : (ws.map Written.entry).reverse.lookup w.field.name = none := by
          rw [List.lookup_eq_none_iff]
          intro p hp
          obtain ⟨u, hu, rfl⟩ := List.mem_map.1 (List.mem_reverse.1 hp)
          have ne : w.field.name ≠ u.field.name := fun same =>
            out (List.mem_map.2 ⟨u, hu, same.symm⟩)
          simpa [Written.entry] using ne
        rw [none, Option.none_or, lookup_entry_self]
      · rw [ih once hw, Option.some_or]

variable {fields : List Field}

/-- One member is read as an entry. -/
theorem fieldsFrom_member {w : Written}
    (known : fields.find? (·.name = w.field.name) = some w.field) (fuel : Nat) {first : Bool}
    {got : Entries} (new : got.lookup w.field.name = none) (ws : List Written) {rest bs : Bytes}
    (h : more 123 first bs = .ok (true, w.bytes (bytesOfMembers ws rest))) :
    fieldsFrom fields (fuel + 1) first got bs
      = fieldsFrom fields fuel false (w.entry :: got) (bytesOfMembers ws rest) := by
  obtain ⟨b, rest', mark, e⟩ := bytesOfMembers_mark ws rest
  rw [fieldsFrom, bind_apply_of_ok h, if_pos rfl, Written.bytes,
    bind_apply_of_ok (key_writeText _ _)]
  simp only [known, new, Option.isSome_none, Bool.false_eq_true, if_false]
  rw [bind_apply_of_ok (colon_cons _), e,
    bind_apply_of_ok (within_of_ok (w.reads b rest' mark))]
  rfl

theorem fieldsFrom_members (known : ∀ w ∈ ws, fields.find? (·.name = w.field.name) = some w.field)
    (once : (ws.map (·.field.name)).Nodup) {fuel : Nat} (enough : ws.length < fuel)
    {got : Entries} (new : ∀ w ∈ ws, got.lookup w.field.name = none) (rest : Bytes) :
    fieldsFrom fields fuel false got (bytesOfMembers ws rest)
      = .ok ((ws.map Written.entry).reverse ++ got, 125 :: rest) := by
  induction ws generalizing fuel got with
  | nil =>
      obtain ⟨fuel, rfl⟩ : ∃ k, fuel = k + 1 := ⟨fuel - 1, by omega⟩
      rw [fieldsFrom]
      exact bind_apply_of_ok (more_end rest)
  | cons w ws ih =>
      obtain ⟨fuel, rfl⟩ : ∃ k, fuel = k + 1 := ⟨fuel - 1, by omega⟩
      obtain ⟨out, once⟩ := List.nodup_cons.1 once
      have new' : ∀ v ∈ ws, List.lookup v.field.name (w.entry :: got) = none := by
        intro v hv
        rw [lookup_entry_of_ne w v got fun same => out (List.mem_map.2 ⟨v, hv, same⟩)]
        exact new v (.tail w hv)
      rw [bytesOfMembers_cons,
        fieldsFrom_member (known w List.mem_cons_self) fuel (new w List.mem_cons_self) ws
          (more_next w _),
        ih (fun v hv => known v (.tail w hv)) once (by simpa using enough) new']
      simp

/-- Every field has been read, so none is missing. -/
theorem complete_of_lookup {got : Entries}
    (found : ∀ w ∈ ws, got.lookup w.field.name = some w.slot) (bs : Bytes) :
    complete (ws.map (·.field)) got bs = .ok (ws.map Written.entry, bs) := by
  rw [complete]
  induction ws with
  | nil => rfl
  | cons w ws ih =>
      have tail := ih fun v hv => found v (.tail w hv)
      have head : (pure (w.field.name, w.slot) : Reader (String × Slot)) bs
          = .ok (w.entry, bs) := rfl
      rw [List.map_cons, List.mapM_cons]
      simp only [found w List.mem_cons_self]
      rw [bind_apply_of_ok head, bind_apply_of_ok tail]
      rfl

/-- A record that is written as an object is read as its slots. -/
theorem record_write (title : String) {w : Written}
    (once : ((w :: ws).map (·.field.name)).Nodup) (rest : Bytes) :
    record title ((w :: ws).map (·.field))
        (bytesOf (Value.object ((w :: ws).map Written.member)).write ++ rest)
      = .ok ((w :: ws).map Written.entry, rest) := by
  have known : ∀ v ∈ w :: ws, ((w :: ws).map (·.field)).find? (·.name = v.field.name)
      = some v.field := fun v => find?_field once
  have new : ∀ v ∈ ws, List.lookup v.field.name [w.entry] = none := by
    intro v hv
    rw [lookup_entry_of_ne w v [] fun same =>
      (List.nodup_cons.1 once).1 (List.mem_map.2 ⟨v, hv, same⟩)]
    rfl
  let inner := w.bytes (bytesOfMembers ws rest)
  let members : Reader Entries := fun bs =>
    fieldsFrom ((w :: ws).map (·.field)) (bs.length + 1) true [] bs
  have enough : ws.length < inner.length := by
    have behind := length_lt_length_bytesOfMembers ws rest
    simp only [inner, Written.bytes, List.length_append, List.length_cons]
    omega
  have got : members inner = .ok (((w :: ws).map Written.entry).reverse, 125 :: rest) := by
    dsimp only [members]
    rw [fieldsFrom_member (known w List.mem_cons_self) inner.length rfl ws (more_first w _),
      fieldsFrom_members (fun v hv => known v (.tail w hv)) once.of_cons enough new,
      List.map_cons, List.reverse_cons]
  have all := complete_of_lookup (fun v hv => lookup_reverse once hv) (125 :: rest)
  have closing : endOfObject (125 :: rest) = .ok ((), rest) := by
    rw [endOfObject, bind_apply_of_ok (peek_cons rfl _)]
    rfl
  have opening : drop (123 :: inner) = .ok ((), inner) := rfl
  rw [bytesOf_object, record, bind_apply_of_ok (peek_cons rfl _)]
  simp only
  rw [bind_apply_of_ok opening]
  change (members >>= _) inner = _
  rw [bind_apply_of_ok got, bind_apply_of_ok all, bind_apply_of_ok closing]
  rfl

theorem whole_record_write (title : String) (filled : ws ≠ [])
    (once : (ws.map (·.field.name)).Nodup) :
    whole (record title (ws.map (·.field)))
        (Text.utf8 (Value.object (ws.map Written.member)).compact)
      = some (ws.map Written.entry) := by
  obtain ⟨w, ws, rfl⟩ := List.exists_cons_of_ne_nil filled
  have read := record_write title once []
  rw [List.append_nil] at read
  rw [whole, Value.compact, utf8_ofList, read]
  rfl

end

end Gatehouse.Json
