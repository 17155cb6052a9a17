import Mathlib.Data.List.Induction
import PrintClient.Proofs.Json.Compact
import PrintClient.Request

/-!
# Requests are written faithfully

A request is built by calls that enter a member of its data, replace all of them, or set the
printer. Its message is an object that holds the action, the data as the last writes leave them, the
printer that was set last, and the number of the request. The text of the message is read back as
that object, and tells the request and its number apart from all others.

* `Call`, `build`: how requests are built;
* `lastWrite?`, `lastPrinter?`: what the calls leave;
* `find?_build`, `printer_build`, `ordered_build`: what the request holds;
* `fields`, `message`, `encodeChars_eq`: the message;
* `parse_encode`, `encode_inj`, `encode_faithful`: its text.
-/

namespace PrintClient.Request

/-! ### Building -/

/-- A call of the builder of a request. -/
inductive Call where
  | entry (key : String) (value : Json)
  | withData (data : Dict Json)
  | withPrinter (printer : String)

namespace Call

/-- The request after a call. -/
def apply (r : Request) : Call → Request
  | .entry key value => r.entry key value
  | .withData data => r.withData data
  | .withPrinter printer => r.withPrinter printer

/-- What a call says of the data under a key, if it says anything: the value, or that there is none.
-/
def write? (key : String) : Call → Option (Option Json)
  | .entry k value => if k = key then some (some value) else none
  | .withData data => some (Dict.find? key data)
  | .withPrinter _ => none

/-- The printer that a call sets. -/
def printer? : Call → Option String
  | .withPrinter printer => some printer
  | _ => none

/-- All objects in the data of a call hold their members in key order. -/
def IsOrdered : Call → Prop
  | .entry _ value => value.IsOrdered
  | .withData data => (Json.object data).IsOrdered
  | .withPrinter _ => True

end Call

/-- The request of an action after the calls of its builder. -/
def build (action : String) (calls : List Call) : Request := calls.foldl Call.apply (named action)

/-- What the last call that says anything of a key says. -/
def lastWrite? (calls : List Call) (key : String) : Option Json :=
  (calls.reverse.findSome? (Call.write? key)).join

/-- The printer that was set last. -/
def lastPrinter? (calls : List Call) : Option String := calls.reverse.findSome? Call.printer?

section Build

variable (action : String) (calls : List Call)

theorem build_concat (c : Call) : build action (calls ++ [c]) = c.apply (build action calls) :=
  List.foldl_concat ..

theorem action_build : (build action calls).action = action := by
  induction calls using List.reverseRecOn with
  | nil => rfl
  | append_singleton calls c ih =>
    rw [build_concat]
    cases c <;> exact ih

/-- **The data hold what the last writes left.** -/
theorem find?_build (key : String) :
    Dict.find? key (build action calls).data = lastWrite? calls key := by
  induction calls using List.reverseRecOn with
  | nil => rfl
  | append_singleton calls c ih =>
    rw [build_concat, lastWrite?, List.reverse_concat, List.findSome?_cons]
    cases c with
    | entry k value =>
      by_cases h : k = key
      · subst h
        rw [Call.write?, if_pos rfl]
        exact Dict.find?_insert_self k value _
      · rw [Call.write?, if_neg h]
        exact (Dict.find?_insert_of_ne (Ne.symm h) value _).trans ih
    | withData data => rfl
    | withPrinter => exact ih

/-- **The printer is the one that was set last.** -/
theorem printer_build : (build action calls).printer = lastPrinter? calls := by
  induction calls using List.reverseRecOn with
  | nil => rfl
  | append_singleton calls c ih =>
    rw [build_concat, lastPrinter?, List.reverse_concat, List.findSome?_cons]
    cases c with
    | withPrinter => rfl
    | entry | withData => exact ih

/-- Dictionaries in key order stay so. -/
theorem isOrdered_build {calls : List Call} (h : ∀ c ∈ calls, c.IsOrdered) :
    (Json.object (build action calls).data).IsOrdered := by
  induction calls using List.reverseRecOn with
  | nil => exact Json.isOrdered_object.2 ⟨List.Pairwise.nil, fun _ hm => absurd hm List.not_mem_nil⟩
  | append_singleton calls c ih =>
    have hc : c.IsOrdered := h c List.mem_concat_self
    have hbefore := ih fun c hc => h c (List.mem_append_left _ hc)
    rw [build_concat]
    cases c with
    | entry key value =>
      obtain ⟨hsorted, hvalues⟩ := Json.isOrdered_object.1 hbefore
      refine Json.isOrdered_object.2 ⟨Dict.sorted_insert key value hsorted, fun m hm => ?_⟩
      rcases Dict.mem_insert hm with rfl | hm
      · exact hc
      · exact hvalues m hm
    | withData => exact hc
    | withPrinter => exact hbefore

/-- Calls that leave the same data and the same printer build the same request. -/
theorem build_congr {calls calls' : List Call} (h : ∀ c ∈ calls, c.IsOrdered)
    (h' : ∀ c ∈ calls', c.IsOrdered) (hdata : lastWrite? calls' = lastWrite? calls)
    (hprinter : lastPrinter? calls' = lastPrinter? calls) :
    build action calls' = build action calls := by
  have hsame : (build action calls').data = (build action calls).data := by
    refine Dict.eq_of_find?_eq (Json.isOrdered_object.1 (isOrdered_build action h')).1
      (Json.isOrdered_object.1 (isOrdered_build action h)).1 fun key => ?_
    rw [find?_build, find?_build, hdata]
  have heta (r : Request) : r = ⟨r.action, r.data, r.printer⟩ := rfl
  rw [heta (build action calls'), heta (build action calls), action_build, action_build,
    printer_build, printer_build, hsame, hprinter]

end Build

/-! ### Messages -/

/-- The members of the message of a request, as they are written. -/
def fields (r : Request) (id : UInt64) : List (String × Json) :=
  ("action", .string r.action) :: ("data", .object r.data) ::
    ((r.printer.map fun printer => ("printer", .string printer)).toList ++
      [("callback_id", .ofWord id)])

/-- The members of the message of a request, in key order. -/
def message (r : Request) (id : UInt64) : Dict Json :=
  ("action", .string r.action) :: ("callback_id", .ofWord id) :: ("data", .object r.data) ::
    (r.printer.map fun printer => ("printer", .string printer)).toList

section Message

variable (r : Request) (id : UInt64)

theorem encodeChars_eq : r.encodeChars id.toNat = Json.compactChars (.object (r.fields id)) := by
  have hid : Json.compactChars (.ofWord id) = Nat.toDigits 10 id.toNat := String.toList_ofList
  obtain ⟨action, data, printer⟩ := r
  cases printer <;>
    simp [encodeChars, fields, memberChars, printerChars, Json.compactChars, Json.compactMembers,
      hid]

theorem encode_eq_compact : r.encode id.toNat = Json.compact (.object (r.fields id)) :=
  congrArg String.ofList (r.encodeChars_eq id)

/-- The number is read to its place between the action and the data. -/
theorem ofList_fields : Dict.ofList (r.fields id) = r.message id := by
  obtain ⟨action, data, printer⟩ := r
  have hid (rest : Dict Json) : Dict.insert "callback_id" (.ofWord id)
      (("action", .string action) :: ("data", .object data) :: rest) =
        ("action", .string action) :: ("callback_id", .ofWord id) ::
          ("data", .object data) :: rest := by
    rw [Dict.insert, if_neg (by decide), if_neg (by decide), Dict.insert, if_neg (by decide),
      if_pos (by decide)]
  have hdata : Dict.ofList [("action", .string action), ("data", Json.object data)] =
      [("action", .string action), ("data", .object data)] :=
    Dict.ofList_of_sorted (List.pairwise_pair.2 (show "action" < "data" by decide))
  cases printer with
  | none =>
    calc Dict.ofList (fields ⟨action, data, none⟩ id)
        = Dict.insert "callback_id" (.ofWord id)
            (Dict.ofList [("action", .string action), ("data", .object data)]) := rfl
      _ = message ⟨action, data, none⟩ id := by rw [hdata, hid]; rfl
  | some printer =>
    have hprinter : Dict.insert "printer" (.string printer)
        [("action", .string action), ("data", Json.object data)] =
          [("action", .string action), ("data", .object data), ("printer", .string printer)] := by
      rw [Dict.insert, if_neg (by decide), if_neg (by decide), Dict.insert, if_neg (by decide),
        if_neg (by decide), Dict.insert]
    calc Dict.ofList (fields ⟨action, data, some printer⟩ id)
        = Dict.insert "callback_id" (.ofWord id) (Dict.insert "printer" (.string printer)
            (Dict.ofList [("action", .string action), ("data", .object data)])) := rfl
      _ = message ⟨action, data, some printer⟩ id := by rw [hdata, hprinter, hid]; rfl

theorem depth_fields : (Json.object (r.fields id)).depth = (Json.object r.data).depth + 1 := by
  obtain ⟨action, data, printer⟩ := r
  cases printer <;> simp [fields, Json.depth, Json.memberDepth, Json.ofWord]

/-- No control character stands in a message. -/
theorem not_control_encode : ∀ c ∈ (r.encode id.toNat).toList, 32 ≤ c.toNat := by
  rw [encode_eq_compact, Json.compact, String.toList_ofList]
  exact Json.not_control_compactChars _

end Message

/-! ### Reading back -/

/-- A request whose message can be read: its data hold objects in key order and fractions that read
back, and do not nest too deep for the object of the message around them. -/
structure IsReadable (r : Request) : Prop where
  ordered : (Json.object r.data).IsOrdered
  reals : ∀ x, .number (.real x) ∈ (Json.object r.data).parts → Json.ReadsBack x
  depth : (Json.object r.data).depth + 1 ≤ Json.nestingLimit

/-- Beside the data stand strings and a number. -/
theorem mem_fields {r : Request} {id : UInt64} {m : String × Json} (h : m ∈ r.fields id) :
    m.2 = .object r.data ∨ (∃ s, m.2 = .string s) ∨ m.2 = .ofWord id := by
  obtain ⟨action, data, printer⟩ := r
  simp only [fields, List.mem_cons, List.mem_append, Option.mem_toList, Option.map_eq_some_iff,
    List.not_mem_nil, or_false] at h
  rcases h with rfl | rfl | ⟨printer, -, rfl⟩ | rfl
  · exact .inr (.inl ⟨action, rfl⟩)
  · exact .inl rfl
  · exact .inr (.inl ⟨printer, rfl⟩)
  · exact .inr (.inr rfl)

/-- What the values of a message have to keep is what the data of the request have to keep. -/
theorem IsReadable.kept {r : Request} (h : r.IsReadable) (id : UInt64) :
    ∀ w ∈ Json.memberParts (r.fields id), w.IsKept := by
  intro w hw
  obtain ⟨m, hm, hw⟩ := Json.mem_memberParts.1 hw
  rcases mem_fields hm with hdata | ⟨s, hs⟩ | hid
  · rw [hdata] at hw
    match w, hw with
    | .number (.real x), hw => exact h.reals x hw
    | .object members, hw => exact h.ordered members hw
    | .number (.integer _), _ | .null, _ | .bool _, _ | .string _, _ | .array _, _ => trivial
  · rw [hs] at hw
    obtain rfl := List.mem_singleton.1 hw
    trivial
  · rw [hid] at hw
    obtain rfl := List.mem_singleton.1 hw
    trivial

/-- **A message is read back as its members.** -/
theorem parse_encode {r : Request} (h : r.IsReadable) (id : UInt64) :
    Json.parse (r.encode id.toNat) = .ok (.object (r.message id)) := by
  rw [encode_eq_compact, ← ofList_fields]
  exact Json.parse_compact_object (h.kept id) (depth_fields r id ▸ h.depth)

theorem ofWord_inj {n m : UInt64} (h : Json.ofWord n = Json.ofWord m) : n = m := by
  have hword : WideInt.ofWord n = WideInt.ofWord m := Number.integer.inj (Json.number.inj h)
  exact UInt64.toNat_inj.1 (Int.ofNat_inj.1 (congrArg Subtype.val hword))

/-- A message tells its request and its number. -/
theorem message_inj {r r' : Request} {id id' : UInt64} (h : r.message id = r'.message id') :
    r = r' ∧ id = id' := by
  obtain ⟨action, data, printer⟩ := r
  obtain ⟨action', data', printer'⟩ := r'
  simp only [message, List.cons.injEq, Prod.mk.injEq, true_and, Json.string.injEq,
    Json.object.injEq] at h
  obtain ⟨rfl, hid, rfl, hprinter⟩ := h
  have hsame : printer = printer' := by
    cases printer <;> cases printer' <;> simp_all
  exact ⟨by rw [hsame], ofWord_inj hid⟩

/-- What the message says of calls that build a request, under every number. -/
structure IsFaithful (name : String) (calls : List Call) (id : UInt64) : Prop where
  /-- The text is read as the message, -/
  parsed : Json.parse ((build name calls).encode id.toNat) =
    .ok (.object ((build name calls).message id))
  /-- whose action is the one given, -/
  action : (build name calls).action = name
  /-- whose data are what the last writes left, -/
  data : ∀ key, Dict.find? key (build name calls).data = lastWrite? calls key
  /-- and whose printer, if there is one, was set last. -/
  printer : (build name calls).printer = lastPrinter? calls
  /-- No control character stands in the text. -/
  clear : ∀ c ∈ ((build name calls).encode id.toNat).toList, 32 ≤ c.toNat
  /-- Other calls that leave the same data and the same printer have the same text. -/
  canonical : ∀ calls' : List Call, (∀ c ∈ calls', c.IsOrdered) →
    lastWrite? calls' = lastWrite? calls → lastPrinter? calls' = lastPrinter? calls →
      (build name calls').encode id.toNat = (build name calls).encode id.toNat
  /-- No other request and no other number has this text. -/
  unique : ∀ (name' : String) (calls' : List Call) (id' : UInt64),
    (build name' calls').IsReadable →
      (build name' calls').encode id'.toNat = (build name calls).encode id.toNat →
        build name' calls' = build name calls ∧ id' = id

/-- **Requests are written faithfully**: whatever calls build them, and under every number. -/
theorem encode_faithful (action : String) {calls : List Call} (id : UInt64)
    (hordered : ∀ c ∈ calls, c.IsOrdered)
    (hreals : ∀ x, .number (.real x) ∈ (Json.object (build action calls).data).parts →
      Json.ReadsBack x)
    (hdepth : (Json.object (build action calls).data).depth + 1 ≤ Json.nestingLimit) :
    IsFaithful action calls id := by
  have hreadable : (build action calls).IsReadable :=
    ⟨isOrdered_build action hordered, hreals, hdepth⟩
  refine
    { parsed := parse_encode hreadable id
      action := action_build action calls
      data := find?_build action calls
      printer := printer_build action calls
      clear := not_control_encode _ id
      canonical := fun calls' hordered' hdata hprinter => ?_
      unique := fun action' calls' id' hreadable' hsame => ?_ }
  · rw [build_congr action hordered hordered' hdata hprinter]
  · have hread := parse_encode hreadable' id'
    rw [hsame, parse_encode hreadable id] at hread
    obtain ⟨hrequest, hid⟩ := message_inj (Json.object.inj (Except.ok.inj hread))
    exact ⟨hrequest.symm, hid.symm⟩

/-- Calls that replace the data, enter a member twice, nest, and leave quotation marks, control
characters, a fraction and characters outside the first plane. -/
def sampleCalls : List Call :=
  [.entry "lost" .null, .withPrinter "first",
    .withData [("a\x22b\\", .array [.bool true, .string "\n\x01𝄞"]), ("z", .null)],
    .entry "x" (.string ""), .entry "x" (.number (.real ⟨false, 6755399441055744, -52, by decide⟩)),
    .withPrinter "second"]

theorem sampleCalls_faithful : IsFaithful "send" sampleCalls 18446744073709551615 := by
  have hdata : (build "send" sampleCalls).data =
      [("a\x22b\\", .array [.bool true, .string "\n\x01𝄞"]),
        ("x", .number (.real ⟨false, 6755399441055744, -52, by decide⟩)), ("z", .null)] := by
    decide +kernel
  refine encode_faithful "send" 18446744073709551615 ?_ ?_ ?_
  · have hsorted (v w : Json) : Dict.Sorted [("a\x22b\\", v), ("z", w)] :=
      List.pairwise_pair.2 (show "a\x22b\\" < "z" by decide)
    simp [sampleCalls, Call.IsOrdered, Json.IsOrdered, Json.parts, Json.itemParts,
      Json.memberParts, hsorted]
  · rw [hdata]
    intro x hx
    simp [Json.parts, Json.itemParts, Json.memberParts] at hx
    subst hx
    decide +kernel
  · decide

end PrintClient.Request
