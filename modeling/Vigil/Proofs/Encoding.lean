import Mathlib.Data.List.Forall2
import Vigil.Proofs.Spelling
import Vigil.Signal.Json

/-!
Envelopes in JSON. Which values stand for an envelope is said without the reader: signal and envelope
are objects with certain members or arrays of the values of these (`Signal.InJson`, `Envelope.InJson`).
The reader takes exactly these values (`Envelope.ofJson_eq_ok_iff`), and what is written is one of
them, so reading and writing again leads to one value for each envelope (`Envelope.canonical_form`).
-/

namespace Vigil

section Results

variable {ε α β : Type} {x : Except ε α} {b : β}

theorem map_eq_ok_iff {f : α → β} : x.map f = .ok b ↔ ∃ a, x = .ok a ∧ f a = b := by
  cases x <;> simp [Except.map]

theorem bind_eq_ok_iff {f : α → Except ε β} : x.bind f = .ok b ↔ ∃ a, x = .ok a ∧ f a = .ok b := by
  cases x <;> simp [Except.bind]

theorem mapError_eq_ok_iff {ε' : Type} {f : ε → ε'} {a : α} {x : Except ε α} :
    x.mapError f = .ok a ↔ x = .ok a := by
  cases x <;> simp [Except.mapError]

end Results

namespace Json

/-- An object in array form: the values of its members. -/
def inArrayForm : Json → Json
  | .object members => .array (members.map Prod.snd)
  | j => j

end Json

/-! ### Identifiers -/

namespace InstanceId

variable {id : InstanceId} {ids : List InstanceId} {j : Json} {items : List Json}

def InJson (id : InstanceId) (j : Json) : Prop := ∃ s, j = .string s ∧ id.InText s

theorem inJson_toJson (id : InstanceId) : id.InJson id.toJson :=
  ⟨id.text, rfl, id.inText_text⟩

theorem ofJson_eq_ok_iff : ofJson j = .ok id ↔ id.InJson j := by
  cases j with
  | string s =>
      rw [ofJson, mapError_eq_ok_iff, parse_eq_ok_iff]
      refine ⟨fun text => ⟨s, rfl, text⟩, ?_⟩
      rintro ⟨_, ⟨⟩, text⟩
      exact text
  | null | bool _ | int _ | float _ | array _ | object _ => simp [ofJson, InJson]

theorem listOfJson_eq_ok_iff : listOfJson items = .ok ids ↔ List.Forall₂ InJson ids items := by
  induction items generalizing ids with
  | nil => simp [listOfJson, List.forall₂_nil_right_iff, eq_comm]
  | cons j items ih =>
      rw [listOfJson]
      cases first : ofJson j with
      | error e =>
          simp only [reduceCtorEq, false_iff]
          rintro (_ | ⟨stands, -⟩)
          rw [ofJson_eq_ok_iff.mpr stands] at first
          exact absurd first (by simp)
      | ok id =>
          simp only [map_eq_ok_iff, ih]
          constructor
          · rintro ⟨ids, rest, rfl⟩
            exact .cons (ofJson_eq_ok_iff.mp first) rest
          · rintro (_ | ⟨stands, rest⟩)
            obtain rfl := Except.ok.inj (first.symm.trans (ofJson_eq_ok_iff.mpr stands))
            exact ⟨_, rest, rfl⟩

end InstanceId

namespace InstanceSet

/-- An array with the members in any order, each of them once or more often. -/
def InJson (s : InstanceSet) (j : Json) : Prop :=
  ∃ items ids, j = .array items ∧ List.Forall₂ InstanceId.InJson ids items ∧
    ∀ id, id ∈ s ↔ id ∈ ids

variable {s : InstanceSet} {j : Json}

theorem inJson_toJson (s : InstanceSet) : InJson s s.toJson := by
  refine ⟨s.toList.map InstanceId.toJson, s.toList, rfl, ?_, fun id => Iff.rfl⟩
  rw [List.forall₂_map_right_iff, List.forall₂_same]
  exact fun id _ => id.inJson_toJson

theorem ofJson_eq_ok_iff : ofJson j = .ok s ↔ InJson s j := by
  cases j with
  | array items =>
      have read : ofJson (.array items) = (InstanceId.listOfJson items).map .ofList := rfl
      rw [read, map_eq_ok_iff]
      constructor
      · rintro ⟨ids, listed, rfl⟩
        exact ⟨items, ids, rfl, InstanceId.listOfJson_eq_ok_iff.mp listed,
          fun id => SortedSet.mem_ofList⟩
      · rintro ⟨_, ids, ⟨⟩, listed, members⟩
        refine ⟨ids, InstanceId.listOfJson_eq_ok_iff.mpr listed, ?_⟩
        ext id
        rw [SortedSet.mem_ofList, members]
  | null | bool _ | int _ | float _ | string _ | object _ => simp [ofJson, InJson]

end InstanceSet

/-! ### Signals -/

namespace Signal

variable {s : Signal} {kind : String} {j : Json}

/-- The member that a signal has beside its kind: the name, and which values stand for it. -/
def member? : Signal → Option (String × (Json → Prop))
  | join | leave => none
  | iAmAlive server | timedOut server | sendHeartbeat server | resetSendHeartbeat server =>
    some ("server", server.InJson)
  | suspicions suspects => some ("suspects", InstanceSet.InJson suspects)

/-- An object may have other members; an array has exactly the values. -/
inductive InJson (s : Signal) : Json → Prop
  | object {members : List (String × Json)}
      (kind : Json.find "type" members = some (.string s.kind))
      (rest : ∀ m ∈ s.member?, ∃ j, Json.find m.1 members = some j ∧ m.2 j) :
      InJson s (.object members)
  | array {values : List Json} (rest : List.Forall₂ (fun m j => m.2 j) s.member?.toList values) :
      InJson s (.array (.string s.kind :: values))

theorem kind_of_serverSignal? {signal : InstanceId → Signal}
    (h : serverSignal? kind = some signal) (id : InstanceId) : (signal id).kind = kind := by
  unfold serverSignal? at h
  split at h
  case h_5 => cases h
  all_goals
    cases h
    rfl

theorem kind_of_ofMembers {server suspects : Except DecodeError Json}
    (h : ofMembers kind server suspects = .ok s) : s.kind = kind := by
  unfold ofMembers at h
  split at h
  · cases h
    rfl
  · cases h
    rfl
  · obtain ⟨_, -, rfl⟩ := map_eq_ok_iff.mp h
    rfl
  · split at h
    · rename_i signal named
      obtain ⟨id, -, rfl⟩ := map_eq_ok_iff.mp h
      exact kind_of_serverSignal? named id
    · cases h

/-- What stands for the member of a signal is read as its value. -/
theorem read_member_eq_ok_iff {α : Type} {value : Except DecodeError Json}
    {read : Json → Except DecodeError α} {stands : α → Json → Prop}
    (reads : ∀ {j a}, read j = .ok a ↔ stands a j) {signal : α → Signal}
    (inj : Function.Injective signal) (a : α) :
    (value.bind read).map signal = .ok (signal a) ↔ ∃ j, value = .ok j ∧ stands a j := by
  rw [map_eq_ok_iff]
  constructor
  · rintro ⟨a', found, same⟩
    obtain rfl := inj same
    obtain ⟨j, found, read⟩ := bind_eq_ok_iff.mp found
    exact ⟨j, found, reads.mp read⟩
  · rintro ⟨j, found, stands⟩
    exact ⟨a, bind_eq_ok_iff.mpr ⟨j, found, reads.mpr stands⟩, rfl⟩

/-- A signal is built from the values that stand for what it has beside its kind. -/
theorem ofMembers_kind_eq_ok_iff (value : String → Except DecodeError Json) :
    ofMembers s.kind (value "server") (value "suspects") = .ok s ↔
      ∀ m ∈ s.member?, ∃ j, value m.1 = .ok j ∧ m.2 j := by
  have one (m : String × (Json → Prop)) :
      (∀ m' ∈ some m, ∃ j, value m'.1 = .ok j ∧ m'.2 j) ↔ ∃ j, value m.1 = .ok j ∧ m.2 j := by
    simp
  cases s with
  | join | leave => simp [ofMembers, kind, member?]
  | iAmAlive id | timedOut id | sendHeartbeat id | resetSendHeartbeat id =>
      refine (read_member_eq_ok_iff InstanceId.ofJson_eq_ok_iff ?_ id).trans
        (one ("server", id.InJson)).symm
      intro a b same
      injection same
  | suspicions suspects =>
      refine (read_member_eq_ok_iff InstanceSet.ofJson_eq_ok_iff ?_ suspects).trans
        (one ("suspects", InstanceSet.InJson suspects)).symm
      intro a b same
      injection same

theorem ofMembers_eq_ok_iff (value : String → Except DecodeError Json) :
    ofMembers kind (value "server") (value "suspects") = .ok s ↔
      kind = s.kind ∧ ∀ m ∈ s.member?, ∃ j, value m.1 = .ok j ∧ m.2 j := by
  constructor
  · intro built
    obtain rfl := kind_of_ofMembers built
    exact ⟨rfl, (ofMembers_kind_eq_ok_iff value).mp built⟩
  · rintro ⟨rfl, rest⟩
    exact (ofMembers_kind_eq_ok_iff value).mpr rest

theorem member_eq_ok_iff {name : String} {members : List (String × Json)} :
    member name members = .ok j ↔ Json.find name members = some j := by
  unfold member
  cases Json.find name members <;> simp

theorem hasMember_kind (s : Signal) : hasMember s.kind = s.member?.isSome := by
  cases s <;> rfl

theorem inJson_array_of_none (h : s.member? = none) : s.InJson (.array [.string s.kind]) :=
  .array (h ▸ .nil)

theorem inJson_array_of_some {m : String × (Json → Prop)} (h : s.member? = some m) (stands : m.2 j) :
    s.InJson (.array [.string s.kind, j]) :=
  .array (h ▸ .cons stands .nil)

theorem inJson_of_ofJson (h : ofJson j = .ok s) : s.InJson j := by
  unfold ofJson at h
  split at h
  · split at h
    · rename_i members _ kind named
      obtain ⟨rfl, rest⟩ := (ofMembers_eq_ok_iff fun name => member name members).mp h
      simp only [member_eq_ok_iff] at rest
      exact .object named rest
    · cases h
  · obtain ⟨rfl, rest⟩ := (ofMembers_eq_ok_iff fun _ => .error .form).mp h
    refine inJson_array_of_none (Option.eq_none_iff_forall_not_mem.mpr fun m hm => ?_)
    obtain ⟨_, impossible, -⟩ := rest m hm
    cases impossible
  · rename_i kind j more
    obtain ⟨s', built, checked⟩ := bind_eq_ok_iff.mp h
    obtain ⟨rfl, rest⟩ := (ofMembers_eq_ok_iff fun _ => .ok j).mp built
    split at checked
    · rename_i exactly
      obtain rfl := Except.ok.inj checked
      rw [Bool.and_eq_true, hasMember_kind] at exactly
      obtain ⟨m, has⟩ := Option.isSome_iff_exists.mp exactly.1
      obtain rfl := List.isEmpty_iff.mp exactly.2
      obtain ⟨j', same, stands⟩ := rest m has
      obtain rfl := Except.ok.inj same
      exact inJson_array_of_some has stands
    · cases checked
  · cases h

theorem ofJson_of_inJson (h : s.InJson j) : ofJson j = .ok s := by
  cases h with
  | @object members kind rest =>
      rw [ofJson, kind]
      refine (ofMembers_kind_eq_ok_iff fun name => member name members).mpr ?_
      simpa only [member_eq_ok_iff] using rest
  | array rest =>
      cases has : s.member? with
      | none =>
          rw [has] at rest
          cases rest
          exact (ofMembers_kind_eq_ok_iff fun _ => .error .form).mpr (by simp [has])
      | some m =>
          rw [has] at rest
          cases rest with
          | @cons _ j _ _ stands rest =>
              cases rest
              refine bind_eq_ok_iff.mpr ⟨s, (ofMembers_kind_eq_ok_iff fun _ => .ok j).mpr ?_, ?_⟩
              · simpa [has] using stands
              · rw [hasMember_kind, has]
                rfl

theorem ofJson_eq_ok_iff : ofJson j = .ok s ↔ s.InJson j :=
  ⟨inJson_of_ofJson, ofJson_of_inJson⟩

theorem inJson_toJson (s : Signal) : s.InJson s.toJson := by
  cases s with
  | join | leave => exact .object rfl (by simp [member?])
  | iAmAlive id | timedOut id | sendHeartbeat id | resetSendHeartbeat id =>
      exact .object rfl (by simpa [member?, Json.find] using id.inJson_toJson)
  | suspicions suspects =>
      exact .object rfl (by simpa [member?, Json.find] using InstanceSet.inJson_toJson suspects)

theorem inJson_inArrayForm_toJson (s : Signal) : s.InJson s.toJson.inArrayForm := by
  cases s with
  | join | leave => exact .array .nil
  | iAmAlive id | timedOut id | sendHeartbeat id | resetSendHeartbeat id =>
      exact inJson_array_of_some rfl id.inJson_toJson
  | suspicions suspects =>
      exact inJson_array_of_some rfl (InstanceSet.inJson_toJson suspects)

end Signal

/-! ### Headers -/

namespace SortedMap

variable {κ α : Type} [LT κ] [DecidableLT κ] [KeyOrder κ] [DecidableEq κ]

theorem get?_foldl_insert {l : List (κ × α)} (order : l.Pairwise fun a b => a.1 < b.1)
    (m : SortedMap κ α) (k : κ) :
    (l.foldl (fun m e => m.insert e.1 e.2) m).get? k = (lookup k l).or (m.get? k) := by
  induction l generalizing m with
  | nil => rfl
  | cons e l ih =>
      obtain ⟨beyond, order⟩ := List.pairwise_cons.mp order
      rw [List.foldl_cons, ih order, get?_insert, lookup]
      by_cases same : e.1 = k
      · subst same
        rw [if_pos rfl, if_pos rfl, lookup_eq_none_of_lt beyond]
        rfl
      · rw [if_neg same, if_neg (Ne.symm same)]

theorem ofList_toList (m : SortedMap κ α) : ofList m.toList = m := by
  ext k : 1
  rw [ofList, get?_foldl_insert m.increasing, get?_empty, Option.or_none]
  rfl

end SortedMap

namespace Headers

variable {h h' : Headers} {j : Json} {members : List (String × Json)}

/-- An object of strings. If it has a name more than once, the last of them counts. -/
def InJson (h : Headers) (j : Json) : Prop :=
  ∃ bindings : List (String × String),
    j = .object (bindings.map fun b => (b.1, .string b.2)) ∧ h = .ofList bindings

theorem inJson_toJson (h : Headers) : InJson h (toJson h) :=
  ⟨h.toList, rfl, h.ofList_toList.symm⟩

theorem ofMembers_eq_ok_iff :
    ofMembers h members = .ok h' ↔
      ∃ bindings : List (String × String), members = bindings.map (fun b => (b.1, .string b.2)) ∧
        h' = bindings.foldl (fun h b => h.insert b.1 b.2) h := by
  induction members generalizing h with
  | nil =>
      constructor
      · rintro ⟨⟩
        exact ⟨[], rfl, rfl⟩
      · rintro ⟨bindings, eq, rfl⟩
        obtain rfl := List.map_eq_nil_iff.mp eq.symm
        rfl
  | cons m members ih =>
      obtain ⟨name, j⟩ := m
      cases j with
      | string value =>
          rw [ofMembers, ih]
          constructor
          · rintro ⟨bindings, rfl, rfl⟩
            exact ⟨(name, value) :: bindings, rfl, rfl⟩
          · rintro ⟨bindings, eq, rfl⟩
            obtain ⟨b, bindings, rfl, head, rfl⟩ := List.map_eq_cons_iff.mp eq.symm
            obtain ⟨rfl, same⟩ := Prod.mk.inj head
            obtain rfl := Json.string.inj same
            exact ⟨bindings, rfl, rfl⟩
      | null | bool _ | int _ | float _ | array _ | object _ =>
          simp only [ofMembers, reduceCtorEq, false_iff]
          rintro ⟨bindings, eq, -⟩
          obtain ⟨b, _, -, head, -⟩ := List.map_eq_cons_iff.mp eq.symm
          exact absurd (congrArg Prod.snd head) (by simp)

theorem ofJson_eq_ok_iff : ofJson j = .ok h ↔ InJson h j := by
  cases j with
  | object members =>
      rw [ofJson, ofMembers_eq_ok_iff]
      constructor
      · rintro ⟨bindings, rfl, rfl⟩
        exact ⟨bindings, rfl, rfl⟩
      · rintro ⟨bindings, ⟨⟩, rfl⟩
        exact ⟨bindings, rfl, rfl⟩
  | null | bool _ | int _ | float _ | string _ | array _ => simp [ofJson, InJson]

end Headers

/-! ### Envelopes -/

namespace Envelope

variable {e e' : Envelope Signal} {j : Json}

/-- What stands for the headers may be left out if there are none. -/
def HeadersIn (h : Headers) : Option Json → Prop
  | some j => Headers.InJson h j
  | none => h = ∅

/-- As for signals: an object may have other members, and an array may not. -/
inductive InJson (e : Envelope Signal) : Json → Prop
  | object {members : List (String × Json)} {signal : Json}
      (type : Json.find "type" members = some signal) (content : e.content.InJson signal)
      (headers : HeadersIn e.headers (Json.find "headers" members)) : InJson e (.object members)
  | array {signal : Json} (headers? : Option Json) (content : e.content.InJson signal)
      (headers : HeadersIn e.headers headers?) : InJson e (.array (signal :: headers?.toList))

theorem ofJson_object_eq_ok_iff {members : List (String × Json)} :
    ofJson (.object members) = .ok e ↔
      HeadersIn e.headers (Json.find "headers" members) ∧
      ∃ signal, Json.find "type" members = some signal ∧ Signal.ofJson signal = .ok e.content := by
  have content (h : Headers) :
      (((Signal.member "type" members).bind Signal.ofJson).bind fun s => .ok ⟨s, h⟩) = .ok e ↔
        h = e.headers ∧
        ∃ signal, Json.find "type" members = some signal ∧ Signal.ofJson signal = .ok e.content := by
    simp only [bind_eq_ok_iff, Signal.member_eq_ok_iff]
    constructor
    · rintro ⟨s, read, ⟨⟩⟩
      exact ⟨rfl, read⟩
    · rintro ⟨rfl, read⟩
      exact ⟨e.content, read, rfl⟩
  rw [ofJson]
  cases Json.find "headers" members with
  | none => exact (content ∅).trans (and_congr_left' eq_comm)
  | some j =>
      refine bind_eq_ok_iff.trans ?_
      rw [HeadersIn, ← Headers.ofJson_eq_ok_iff]
      constructor
      · rintro ⟨h, read, rest⟩
        obtain ⟨rfl, signal⟩ := (content h).mp rest
        exact ⟨read, signal⟩
      · rintro ⟨read, signal⟩
        exact ⟨e.headers, read, (content e.headers).mpr ⟨rfl, signal⟩⟩

theorem inJson_of_ofJson (h : ofJson j = .ok e) : e.InJson j := by
  cases j with
  | object members =>
      obtain ⟨headers, signal, type, read⟩ := ofJson_object_eq_ok_iff.mp h
      exact .object type (Signal.ofJson_eq_ok_iff.mp read) headers
  | array items =>
      unfold ofJson at h
      split at h
      · rename_i other
        cases other
      · rename_i signal one
        obtain ⟨rfl⟩ := one
        obtain ⟨content, read, rfl⟩ := map_eq_ok_iff.mp h
        exact .array none (Signal.ofJson_eq_ok_iff.mp read) rfl
      · rename_i signal headers more several
        obtain ⟨rfl⟩ := several
        obtain ⟨content, read, h⟩ := bind_eq_ok_iff.mp h
        obtain ⟨bindings, read', h⟩ := bind_eq_ok_iff.mp h
        split at h
        · rename_i exactly
          cases h
          obtain rfl := List.isEmpty_iff.mp exactly
          exact .array (some headers) (Signal.ofJson_eq_ok_iff.mp read)
            (Headers.ofJson_eq_ok_iff.mp read')
        · cases h
      · cases h
  | null | bool _ | int _ | float _ | string _ => cases h

theorem ofJson_of_inJson (h : e.InJson j) : ofJson j = .ok e := by
  cases h with
  | object type content headers =>
      exact ofJson_object_eq_ok_iff.mpr ⟨headers, _, type, Signal.ofJson_eq_ok_iff.mpr content⟩
  | array headers? content headers =>
      cases headers? with
      | none =>
          refine map_eq_ok_iff.mpr ⟨e.content, Signal.ofJson_eq_ok_iff.mpr content, ?_⟩
          exact congrArg (Envelope.mk e.content) headers.symm
      | some j =>
          refine bind_eq_ok_iff.mpr ⟨e.content, Signal.ofJson_eq_ok_iff.mpr content, ?_⟩
          exact bind_eq_ok_iff.mpr ⟨e.headers, Headers.ofJson_eq_ok_iff.mpr headers, rfl⟩

theorem ofJson_eq_ok_iff : ofJson j = .ok e ↔ e.InJson j :=
  ⟨inJson_of_ofJson, ofJson_of_inJson⟩

/-- The envelope as an object or an array, with its signal as an object or an array. -/
def forms (e : Envelope Signal) : List Json :=
  let headers := Headers.toJson e.headers
  [e.content.toJson, e.content.toJson.inArrayForm].flatMap fun signal =>
    [.object [("type", signal), ("headers", headers)], .array [signal, headers]]

theorem toJson_mem_forms (e : Envelope Signal) : e.toJson ∈ e.forms :=
  List.mem_cons_self ..

theorem inJson_of_mem_forms (h : j ∈ e.forms) : e.InJson j := by
  obtain ⟨signal, written, h⟩ := List.mem_flatMap.mp h
  have content : e.content.InJson signal := by
    rcases List.mem_pair.mp written with rfl | rfl
    · exact e.content.inJson_toJson
    · exact e.content.inJson_inArrayForm_toJson
  have headers := Headers.inJson_toJson e.headers
  rcases List.mem_pair.mp h with rfl | rfl
  · exact .object rfl content headers
  · exact .array (some (Headers.toJson e.headers)) content headers

/-- Exactly the values that stand for an envelope are read as it, among them its four forms and so
what is written. What was read is read again from what is then written, and two values that were read
stand for one envelope exactly if the same is then written. -/
theorem canonical_form :
    (∀ j (e : Envelope Signal), ofJson j = .ok e ↔ e.InJson j) ∧
    (∀ e : Envelope Signal, e.toJson ∈ e.forms ∧ ∀ j ∈ e.forms, ofJson j = .ok e) ∧
    ∀ j (e : Envelope Signal), ofJson j = .ok e → ofJson e.toJson = .ok e ∧
      ∀ j' (e' : Envelope Signal), ofJson j' = .ok e' → (e'.toJson = e.toJson ↔ e' = e) := by
  have back (e : Envelope Signal) : ofJson e.toJson = .ok e :=
    ofJson_of_inJson (inJson_of_mem_forms e.toJson_mem_forms)
  refine ⟨fun j e => ofJson_eq_ok_iff, fun e => ⟨e.toJson_mem_forms, fun j hj => ?_⟩, ?_⟩
  · exact ofJson_of_inJson (inJson_of_mem_forms hj)
  · intro j e _
    refine ⟨back e, fun j' e' _ => ⟨fun same => ?_, congrArg toJson⟩⟩
    have read := back e'
    rw [same, back e] at read
    exact (Except.ok.inj read).symm

/-- A report in array form and without headers, its identifiers in no order, one of them twice. -/
def looseReport : Json :=
  .array [.array [.string "suspicions", .array [.string " 3", .string "+01\n", .string "3"]]]

theorem looseReport_tidied :
    let e : Envelope Signal := .internal (.suspicions (.ofList [1, 3]))
    ofJson looseReport = .ok e ∧ ofJson e.toJson = .ok e ∧
      e.toJson ≠ (internal Signal.join).toJson := by
  intro e
  have read : ofJson looseReport = .ok e := rfl
  have other : ofJson (.array [.array [.string "join"]]) = .ok (internal Signal.join) := rfl
  obtain ⟨tidied, told_apart⟩ := canonical_form.2.2 looseReport e read
  refine ⟨read, tidied, fun same => ?_⟩
  have equal := (told_apart _ _ other).mp same.symm
  exact absurd equal (by decide)

end Envelope
end Vigil
