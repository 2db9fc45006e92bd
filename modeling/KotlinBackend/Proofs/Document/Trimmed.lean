import KotlinBackend.Data.Except
import KotlinBackend.Data.OrderedMap
import KotlinBackend.Json.Decoder
import KotlinBackend.Program.Attribute

/-!
# Documents with members left out

A format is described by the shapes of its nodes: which members a record has, in the order in which
they are written, and what a member is when it is absent. A document is trimmed by leaving out, at
any depth, members that hold what they are when they are absent. `Reads` says that a decoder finds
some data in a document however it is trimmed; the rest of the module derives this for records,
choices, lists and optional values from their parts. Decoders may be bounded by the depth of what
they read.
-/

namespace KotlinBackend.Json

mutual

/-- What stands at a place of a document. Kinds name the nodes of the format, so that a node can
contain nodes of its own kind. -/
inductive Shape (κ : Type) where
  /-- A value without members. -/
  | plain
  | list (item : Shape κ)
  | optional (value : Shape κ)
  | record (fields : List (FieldShape κ))
  | choice (variants : List (String × Shape κ))
  | node (kind : κ)

/-- A member of a record, with the value that it has when it is absent, if it may be. -/
structure FieldShape (κ : Type) where
  name : String
  shape : Shape κ
  absent : Option Json

end

variable {κ : Type}

namespace FieldShape

def must (name : String) (shape : Shape κ) : FieldShape κ := ⟨name, shape, none⟩

def flag (name : String) : FieldShape κ := ⟨name, .plain, some (.bool false)⟩

def word (name default : String) : FieldShape κ := ⟨name, .plain, some (.string default)⟩

def list (name : String) (item : Shape κ) : FieldShape κ := ⟨name, .list item, some (.array [])⟩

def optional (name : String) (value : Shape κ) : FieldShape κ :=
  ⟨name, .optional value, some .null⟩

end FieldShape

/-- The shapes of the nodes of a format. -/
class Grammar (κ : Type) where
  shape : κ → Shape κ

/-- Members with some of them left out and others changed. -/
inductive MembersTrimmed (trimmed : Shape κ → Json → Json → Prop) :
    List (FieldShape κ) → List (String × Json) → List (String × Json) → Prop
  | nil : MembersTrimmed trimmed [] [] []
  | kept {f : FieldShape κ} {fields : List (FieldShape κ)} {value value' : Json}
      {members members' : List (String × Json)} (h : trimmed f.shape value value')
      (hRest : MembersTrimmed trimmed fields members members') :
      MembersTrimmed trimmed (f :: fields) ((f.name, value) :: members)
        ((f.name, value') :: members')
  | dropped {f : FieldShape κ} {fields : List (FieldShape κ)} {value : Json}
      {members members' : List (String × Json)} (h : f.absent = some value)
      (hRest : MembersTrimmed trimmed fields members members') :
      MembersTrimmed trimmed (f :: fields) ((f.name, value) :: members) members'

/-- A document in which some members that hold what they are when absent are left out. -/
inductive Trimmed [Grammar κ] : Shape κ → Json → Json → Prop
  | same (shape : Shape κ) (value : Json) : Trimmed shape value value
  | node {kind : κ} {value value' : Json} (h : Trimmed (Grammar.shape kind) value value') :
      Trimmed (.node kind) value value'
  | optional {shape : Shape κ} {value value' : Json} (hSome : value ≠ .null)
      (h : Trimmed shape value value') : Trimmed (.optional shape) value value'
  | list {shape : Shape κ} {items items' : List Json} (hLength : items.length = items'.length)
      (h : ∀ item item', (item, item') ∈ items.zip items' → Trimmed shape item item') :
      Trimmed (.list shape) (.array items) (.array items')
  | record {fields : List (FieldShape κ)} {members members' : List (String × Json)}
      (h : MembersTrimmed Trimmed fields members members') :
      Trimmed (.record fields) (.object members) (.object members')
  | choice {variants : List (String × Shape κ)} {name : String} {shape : Shape κ}
      {payload payload' : Json} (hShape : variants.lookup name = some shape)
      (h : Trimmed shape payload payload') :
      Trimmed (.choice variants) (variant name payload) (variant name payload')

/-- A decoder finds some data in a document and in all its trimmed forms of less than a depth. -/
def Reads [Grammar κ] (bound : Nat) (shape : Shape κ) (decode : Decoder α) (value : Json) (a : α) :
    Prop :=
  ∀ value', Trimmed shape value value' → value'.depth < bound → decode value' = .ok a

section Values

variable [Grammar κ] {bound : Nat} {shape : Shape κ} {decode : Decoder α} {value : Json} {a : α}

theorem reads_plain (h : decode value = .ok a) : Reads bound (.plain : Shape κ) decode value a := by
  intro value' hTrimmed _
  cases hTrimmed
  exact h

theorem Reads.node {kind : κ} (h : Reads bound (Grammar.shape kind) decode value a) :
    Reads bound (.node kind) decode value a := by
  intro value' hTrimmed hDepth
  cases hTrimmed with
  | same => exact h value (.same _ value) hDepth
  | node hTrimmed => exact h value' hTrimmed hDepth

theorem decode_of_reads (h : ∀ bound, Reads bound shape decode value a) {value' : Json}
    (hTrimmed : Trimmed shape value value') : decode value' = .ok a :=
  h (value'.depth + 1) value' hTrimmed (Nat.lt_succ_self _)

theorem reads_zero : Reads 0 shape decode value a := by
  intro value' _ hDepth
  omega

/-- A decoder that is bounded by the depth of the document reads what its bounded forms read. -/
theorem reads_of_within {decodeWithin : Nat → Decoder α}
    (h : ∀ fuel, Reads fuel shape (decodeWithin fuel) value a) :
    Reads bound shape (fun value => decodeWithin (value.depth + 1) value) value a := by
  intro value' hTrimmed _
  exact h (value'.depth + 1) value' hTrimmed (Nat.lt_succ_self _)

theorem Trimmed.items {items : List Json} {value' : Json}
    (h : Trimmed (.list shape) (.array items) value') :
    ∃ items', value' = .array items' ∧ List.Forall₂ (Trimmed shape) items items' := by
  cases h with
  | same => exact ⟨items, rfl, List.forall₂_same.mpr fun item _ => .same shape item⟩
  | list hLength h => exact ⟨_, rfl, List.forall₂_iff_zip.mpr ⟨hLength, fun hMem => h _ _ hMem⟩⟩

theorem reads_list {items : List Json} {as : List α}
    (h : List.Forall₂ (Reads bound shape decode) items as) :
    Reads bound (.list shape) (decodeList decode) (.array items) as := by
  intro value' hTrimmed hDepth
  obtain ⟨items', rfl, hItems⟩ := hTrimmed.items
  clear hTrimmed
  rw [depth] at hDepth
  refine mapM_eq_ok ?_
  induction h generalizing items' with
  | nil =>
    cases hItems
    exact .nil
  | cons hRead _ ih =>
    cases hItems with
    | cons hFirst hRest =>
      rw [depthOfItems] at hDepth
      exact .cons (hRead _ hFirst (by omega)) (ih _ hRest (by omega))

theorem forall₂_reads {encode : α → Json} {as : List α}
    (h : ∀ a ∈ as, Reads bound shape decode (encode a) a) :
    List.Forall₂ (Reads bound shape decode) (as.map encode) as :=
  List.forall₂_map_left_iff.mpr (List.forall₂_same.mpr h)

/-- A decoder finds an optional value in a document. -/
inductive ReadsOption [Grammar κ] (bound : Nat) (shape : Shape κ) (decode : Decoder α) :
    Json → Option α → Prop
  | none : ReadsOption bound shape decode .null none
  | some {value : Json} {a : α} (h : Reads bound shape decode value a) :
      ReadsOption bound shape decode value (some a)

theorem readsOption {encode : α → Json} {a : Option α}
    (h : ∀ b ∈ a, Reads bound shape decode (encode b) b) :
    ReadsOption bound shape decode (ofOption encode a) a := by
  cases a with
  | none => exact .none
  | some b => exact .some (h b rfl)

theorem reads_optional {a : Option α} (h : ReadsOption bound shape decode value a)
    (hNull : ∃ e, decode .null = .error e) :
    Reads bound (.optional shape) (decodeOption decode) value a := by
  intro value' hTrimmed hDepth
  cases h with
  | none =>
    cases hTrimmed with
    | same => rfl
    | optional hSome => exact absurd rfl hSome
  | some h =>
    rename_i a
    have hDecode : decode value' = .ok a := by
      cases hTrimmed with
      | same => exact h value (.same shape value) hDepth
      | optional _ hTrimmed => exact h value' hTrimmed hDepth
    rw [decodeOption, hDecode]
    · rfl
    · rintro rfl
      obtain ⟨e, hError⟩ := hNull
      cases hError.symm.trans hDecode

end Values

theorem decodeString_bind {β : Type} (text : String) (rest : String → Except Mismatch β) :
    (decodeString (.string text) >>= rest) = rest text := rfl

theorem decodeChoice_name_bind {β : Type} (name : String) (rest : Choice → Except Mismatch β) :
    (decodeChoice (.string name) >>= rest) = rest ⟨name, none⟩ := rfl

section Words

variable {α : Type} {words : List (String × α)} (hDistinct : (words.map Prod.fst).Nodup)

include hDistinct

theorem lookup_eq_some_of_mem {word : String} {a : α} (h : (word, a) ∈ words) :
    words.lookup word = some a := by
  induction words with
  | nil => cases h
  | cons first rest ih =>
    obtain ⟨hNot, hRest⟩ := List.nodup_cons.mp hDistinct
    rcases List.mem_cons.mp h with rfl | h
    · exact OrderedMap.lookup_first (word, a) rest
    · have hNe : word ≠ first.1 := by
        intro hEq
        exact hNot (List.mem_map.mpr ⟨_, h, hEq⟩)
      rw [OrderedMap.lookup_rest rest hNe]
      exact ih hRest h

theorem decodeNamed_wordFor [BEq α] [LawfulBEq α] {a : α} (h : a ∈ words.map Prod.snd) :
    decodeNamed words (.string (wordFor words a)) = .ok a := by
  obtain ⟨entry, hEntry, rfl⟩ := List.mem_map.mp h
  cases hFind : words.find? fun (_, v) => v == entry.2 with
  | none => simpa using List.find?_eq_none.mp hFind entry hEntry
  | some found =>
    have hValue : found.2 = entry.2 := by simpa using List.find?_some hFind
    have hWord : wordFor words entry.2 = found.1 := by
      rw [wordFor, hFind]
      rfl
    have hLookup : words.lookup found.1 = some entry.2 := by
      rw [← hValue]
      exact lookup_eq_some_of_mem hDistinct (List.mem_of_find?_eq_some hFind)
    rw [hWord]
    simp only [decodeNamed, decodeChoice_name_bind, hLookup]
    rfl

end Words

section Members

variable {members : List (String × Json)} {name : String}

theorem filter_eq_nil_of_forall_ne (h : ∀ member ∈ members, member.1 ≠ name) :
    members.filter (·.1 == name) = [] := by
  rw [List.filter_eq_nil_iff]
  intro member hMember
  simpa using h member hMember

theorem member?_of_forall_ne (h : ∀ member ∈ members, member.1 ≠ name) :
    member? members name = .ok none := by
  rw [member?, filter_eq_nil_of_forall_ne h]

theorem member?_cons_self (value : Json) (h : ∀ member ∈ members, member.1 ≠ name) :
    member? ((name, value) :: members) name = .ok (some value) := by
  rw [member?, List.filter_cons_of_pos (by simp), filter_eq_nil_of_forall_ne h]

theorem member?_cons_of_ne {first : String × Json} (h : first.1 ≠ name) :
    member? (first :: members) name = member? members name := by
  rw [member?, List.filter_cons_of_neg (by simpa using h), member?]

theorem MembersTrimmed.refl {trimmed : Shape κ → Json → Json → Prop}
    (h : ∀ shape value, trimmed shape value value) {fields : List (FieldShape κ)}
    (hNames : members.map Prod.fst = fields.map FieldShape.name) :
    MembersTrimmed trimmed fields members members := by
  induction members generalizing fields with
  | nil =>
    cases fields with
    | nil => exact .nil
    | cons f fields => cases hNames
  | cons member members ih =>
    obtain ⟨name, value⟩ := member
    cases fields with
    | nil => cases hNames
    | cons f fields =>
      obtain ⟨rfl, hRest⟩ := List.cons.inj hNames
      exact .kept (h f.shape value) (ih hRest)

theorem MembersTrimmed.mem_names {trimmed : Shape κ → Json → Json → Prop}
    {fields : List (FieldShape κ)} {members' : List (String × Json)}
    (h : MembersTrimmed trimmed fields members members') :
    ∀ member ∈ members', member.1 ∈ fields.map FieldShape.name := by
  induction h with
  | nil => exact List.forall_mem_nil _
  | kept _ _ ih =>
    intro member hMember
    rcases List.mem_cons.mp hMember with rfl | hMember
    · exact List.mem_cons_self
    · exact List.mem_cons_of_mem _ (ih member hMember)
  | dropped _ _ ih =>
    intro member hMember
    exact List.mem_cons_of_mem _ (ih member hMember)

theorem MembersTrimmed.forall_ne {trimmed : Shape κ → Json → Json → Prop}
    {fields : List (FieldShape κ)} {members' : List (String × Json)}
    (h : MembersTrimmed trimmed fields members members')
    (hName : name ∉ fields.map FieldShape.name) : ∀ member ∈ members', member.1 ≠ name := by
  rintro member hMember rfl
  exact hName (h.mem_names member hMember)

end Members

section Records

variable [Grammar κ] {bound : Nat} {fields : List (FieldShape κ)}
  {encoded members : List (String × Json)}

/-- A member that was written is among the members of a trimmed record, or it is left out. -/
inductive Found (bound : Nat) (members : List (String × Json)) :
    FieldShape κ → String × Json → Prop
  | present {f : FieldShape κ} {value value' : Json}
      (h : member? members f.name = .ok (some value')) (hTrimmed : Trimmed f.shape value value')
      (hDepth : value'.depth < bound) : Found bound members f (f.name, value)
  | absent {f : FieldShape κ} {value : Json} (h : member? members f.name = .ok none)
      (hAbsent : f.absent = some value) (hBound : 0 < bound) : Found bound members f (f.name, value)

/-- The members of a trimmed record offer what the record was written with. -/
def Offers (bound : Nat) (members : List (String × Json)) (fields : List (FieldShape κ))
    (encoded : List (String × Json)) : Prop :=
  List.Forall₂ (Found bound members) fields encoded

theorem Found.extend {f : FieldShape κ} {member first : String × Json}
    (h : Found bound members f member) (hName : first.1 ≠ f.name) :
    Found bound (first :: members) f member := by
  cases h with
  | present h hTrimmed hDepth =>
    exact .present ((member?_cons_of_ne hName).trans h) hTrimmed hDepth
  | absent h hAbsent hBound => exact .absent ((member?_cons_of_ne hName).trans h) hAbsent hBound

theorem Offers.extend {first : String × Json} (h : Offers bound members fields encoded)
    (hName : first.1 ∉ fields.map FieldShape.name) :
    Offers bound (first :: members) fields encoded := by
  induction h with
  | nil => exact .nil
  | cons hFirst _ ih =>
    obtain ⟨hNe, hRest⟩ := not_or.mp (mt List.mem_cons.mpr hName)
    exact .cons (hFirst.extend hNe) (ih hRest)

theorem MembersTrimmed.offers (h : MembersTrimmed Trimmed fields encoded members)
    (hDistinct : (fields.map FieldShape.name).Nodup) (hDepth : depthOfMembers members < bound) :
    Offers bound members fields encoded := by
  induction h with
  | nil => exact .nil
  | kept hTrimmed hRest ih =>
    rename_i f fields value value' encoded members
    obtain ⟨hName, hDistinct⟩ := List.nodup_cons.mp hDistinct
    rw [depthOfMembers] at hDepth
    have hSelf := member?_cons_self value' (hRest.forall_ne hName)
    refine .cons (.present hSelf hTrimmed (by omega)) ?_
    exact Offers.extend (ih hDistinct (by omega)) hName
  | dropped hAbsent hRest ih =>
    rename_i f fields value encoded members
    obtain ⟨hName, hDistinct⟩ := List.nodup_cons.mp hDistinct
    refine .cons (.absent (member?_of_forall_ne (hRest.forall_ne hName)) hAbsent (by omega)) ?_
    exact ih hDistinct hDepth

theorem Trimmed.offers {value' : Json} (h : Trimmed (.record fields) (.object encoded) value')
    (hNames : encoded.map Prod.fst = fields.map FieldShape.name)
    (hDistinct : (fields.map FieldShape.name).Nodup) (hDepth : value'.depth ≤ bound) :
    ∃ members, value' = .object members ∧ Offers bound members fields encoded := by
  cases h with
  | same =>
    rw [depth] at hDepth
    exact ⟨encoded, rfl, (MembersTrimmed.refl Trimmed.same hNames).offers hDistinct hDepth⟩
  | record h =>
    rw [depth] at hDepth
    exact ⟨_, rfl, h.offers hDistinct hDepth⟩

theorem reads_record {kind : κ} {decode : Decoder α} {a : α}
    (hShape : Grammar.shape kind = .record fields)
    (hNames : encoded.map Prod.fst = fields.map FieldShape.name)
    (hDistinct : (fields.map FieldShape.name).Nodup)
    (h : ∀ members, Offers bound members fields encoded → decode (.object members) = .ok a) :
    Reads (bound + 1) (.node kind) decode (.object encoded) a := by
  refine Reads.node ?_
  intro value' hTrimmed hDepth
  rw [hShape] at hTrimmed
  obtain ⟨members, rfl, hMembers⟩ := hTrimmed.offers hNames hDistinct (Nat.le_of_lt_succ hDepth)
  exact h members hMembers

theorem reads_record_of_all {kind : κ} {decode : Decoder α} {a : α}
    (hShape : Grammar.shape kind = .record fields)
    (hNames : encoded.map Prod.fst = fields.map FieldShape.name)
    (hDistinct : (fields.map FieldShape.name).Nodup)
    (h : ∀ bound members, Offers bound members fields encoded → decode (.object members) = .ok a) :
    Reads bound (.node kind) decode (.object encoded) a := by
  cases bound with
  | zero => exact reads_zero
  | succ bound => exact reads_record hShape hNames hDistinct (h bound)

theorem decodeMembers_bind (expected : String) (members : List (String × Json))
    (rest : List (String × Json) → Except Mismatch β) :
    (decodeMembers expected (.object members) >>= rest) = rest members := rfl

variable {shape : Shape κ} {name name' : String} {value : Json} {decode : Decoder α} {a absent : α}
  {rest : α → Except Mismatch β} {result : Except Mismatch β}

/-- Decoders take the members of a record one after another, in the order in which they are written:
the first member that is still offered is taken, and what is decoded with the others is left. -/
theorem Offers.required
    (h : Offers bound members (.must name shape :: fields) ((name', value) :: encoded))
    (hRead : Reads bound shape decode value a)
    (hRest : Offers bound members fields encoded → rest a = result) :
    (Json.required members name decode >>= rest) = result := by
  obtain ⟨hFirst, hOthers⟩ := List.forall₂_cons.mp h
  have hRequired : Json.required members name decode = .ok a := by
    cases hFirst with
    | present hMember hTrimmed hDepth =>
      have hDecode := hRead _ hTrimmed hDepth
      rw [Json.required, show member? members name = _ from hMember]
      exact hDecode
    | absent _ hAbsent => cases hAbsent
  rw [hRequired]
  exact hRest hOthers

theorem Offers.defaulted {default : Json}
    (h : Offers bound members (⟨name, shape, some default⟩ :: fields) ((name', value) :: encoded))
    (hRead : Reads bound shape decode value a)
    (hDefault : 0 < bound → value = default → a = absent)
    (hRest : Offers bound members fields encoded → rest a = result) :
    (Json.defaulted members name absent decode >>= rest) = result := by
  obtain ⟨hFirst, hOthers⟩ := List.forall₂_cons.mp h
  have hDefaulted : Json.defaulted members name absent decode = .ok a := by
    cases hFirst with
    | present hMember hTrimmed hDepth =>
      have hDecode := hRead _ hTrimmed hDepth
      rw [Json.defaulted, show member? members name = _ from hMember]
      exact hDecode
    | absent hMember hAbsent hBound =>
      rw [Json.defaulted, show member? members name = _ from hMember,
        hDefault hBound (Option.some.inj hAbsent).symm]
      rfl
  rw [hDefaulted]
  exact hRest hOthers

theorem Offers.flag {b : Bool} {rest : Bool → Except Mismatch β}
    (h : Offers bound members (.flag name :: fields) ((name', .bool b) :: encoded))
    (hRest : Offers bound members fields encoded → rest b = result) :
    (Json.flag members name >>= rest) = result :=
  h.defaulted (reads_plain rfl) (fun _ hEq => Json.bool.inj hEq) hRest

theorem Offers.word {word default : String}
    (h : Offers bound members (.word name default :: fields) ((name', .string word) :: encoded))
    (hDecode : decode (.string word) = .ok a) (hAbsent : decode (.string default) = .ok absent)
    (hRest : Offers bound members fields encoded → rest a = result) :
    (Json.defaulted members name absent decode >>= rest) = result := by
  refine h.defaulted (reads_plain hDecode) ?_ hRest
  intro _ hEq
  rw [hEq, hAbsent] at hDecode
  exact (Except.ok.inj hDecode).symm

theorem Offers.listed {items : List Json} {as : List α} {rest : List α → Except Mismatch β}
    (h : Offers bound members (.list name shape :: fields) ((name', .array items) :: encoded))
    (hItems : List.Forall₂ (Reads bound shape decode) items as)
    (hRest : Offers bound members fields encoded → rest as = result) :
    (Json.listed members name decode >>= rest) = result := by
  refine h.defaulted (reads_list hItems) ?_ hRest
  intro _ hEq
  cases hEq
  cases hItems
  rfl

theorem Offers.optional {a : Option α} {rest : Option α → Except Mismatch β}
    (h : Offers bound members (.optional name shape :: fields) ((name', value) :: encoded))
    (hRead : ReadsOption bound shape decode value a) (hNull : ∃ e, decode .null = .error e)
    (hRest : Offers bound members fields encoded → rest a = result) :
    (Json.optional members name decode >>= rest) = result := by
  refine h.defaulted (reads_optional hRead hNull) ?_ hRest
  rintro hBound rfl
  cases hRead with
  | none => rfl
  | some hRead =>
    obtain ⟨e, hError⟩ := hNull
    cases hError.symm.trans (hRead .null (.same shape .null) hBound)

end Records

section Choices

variable [Grammar κ] {bound : Nat} {kind : κ} {variants : List (String × Shape κ)} {name : String}
  {shape : Shape κ} {payload : Json} {decode : Decoder α} {a : α}

theorem Trimmed.variant_payload {value' : Json}
    (h : Trimmed (.choice variants) (variant name payload) value')
    (hVariant : variants.lookup name = some shape) :
    ∃ payload', value' = variant name payload' ∧ Trimmed shape payload payload' := by
  generalize hValue : variant name payload = value at h
  cases h with
  | same => exact ⟨payload, hValue.symm, .same shape payload⟩
  | choice hFound hTrimmed =>
    cases hValue
    rw [hVariant] at hFound
    cases hFound
    exact ⟨_, rfl, hTrimmed⟩

theorem reads_variant (hShape : Grammar.shape kind = .choice variants)
    (hVariant : variants.lookup name = some shape)
    (h : Reads bound shape (fun payload => decode (variant name payload)) payload a) :
    Reads (bound + 1) (.node kind) decode (variant name payload) a := by
  refine Reads.node ?_
  intro value' hTrimmed hDepth
  rw [hShape] at hTrimmed
  obtain ⟨payload', rfl, hPayload⟩ := hTrimmed.variant_payload hVariant
  refine h payload' hPayload ?_
  have hLess : payload'.depth < (variant name payload').depth := by
    simp [variant, depth, depthOfMembers]
  omega

theorem reads_variant_record {fields : List (FieldShape κ)} {encoded : List (String × Json)}
    (hShape : Grammar.shape kind = .choice variants)
    (hVariant : variants.lookup name = some (.record fields))
    (hNames : encoded.map Prod.fst = fields.map FieldShape.name)
    (hDistinct : (fields.map FieldShape.name).Nodup)
    (h : ∀ members, Offers bound members fields encoded →
      decode (variant name (.object members)) = .ok a) :
    Reads (bound + 1) (.node kind) decode (variant name (.object encoded)) a := by
  refine reads_variant hShape hVariant ?_
  intro payload' hTrimmed hDepth
  obtain ⟨members, rfl, hMembers⟩ := hTrimmed.offers hNames hDistinct (Nat.le_of_lt hDepth)
  exact h members hMembers

/-- A choice that is written as a name has nothing to leave out. -/
theorem reads_name (hShape : Grammar.shape kind = .choice variants)
    (h : decode (.string name) = .ok a) : Reads bound (.node kind) decode (.string name) a := by
  refine Reads.node ?_
  intro value' hTrimmed _
  rw [hShape] at hTrimmed
  cases hTrimmed
  exact h

theorem reads_variant_map {β : Type} {inner : Decoder β} {b : β} (f : β → α)
    (hShape : Grammar.shape kind = .choice variants)
    (hVariant : variants.lookup name = some shape)
    (hDecode : ∀ payload, decode (variant name payload) = f <$> inner payload)
    (h : Reads bound shape inner payload b) :
    Reads (bound + 1) (.node kind) decode (variant name payload) (f b) := by
  refine reads_variant hShape hVariant ?_
  intro payload' hTrimmed hDepth
  dsimp only
  rw [hDecode, h payload' hTrimmed hDepth]
  rfl

theorem decodeChoice_bind {β : Type} (name : String) (payload : Json)
    (rest : Choice → Except Mismatch β) :
    (decodeChoice (variant name payload) >>= rest) = rest ⟨name, some payload⟩ := rfl

end Choices

end KotlinBackend.Json
