import RestFlow.Directive.Form
import RestFlow.Proofs.Body.Pointers
import RestFlow.Proofs.Failure.Traversal
import RestFlow.Proofs.Json.Records
import RestFlow.Proofs.Request.Identity

/-!
# Directives that are written and read again

A directive that was read from its written form can be written, and what was written can be read
again (`Directive.decode_encode`).  The requests are the same, but a parameter may be another one: a
text of nothing but slashes leads to the body itself, whose pointer is the empty text, and the empty
text is read as a name.  This is the only parameter that is lost (`ParameterRef.ofText_text`), so a
directive is read as it was exactly if neither parameter is written so
(`Directive.decode_encode_iff`).
-/

namespace RestFlow

/-! ## Parameters -/

namespace ParameterRef

/-- The text consists of slashes. -/
def IsSlashes (text : String) : Prop :=
  text ≠ "" ∧ ∀ c ∈ text.toList, c = '/'

instance (text : String) : Decidable (IsSlashes text) :=
  -- by the characters of the text, not by all characters that there are
  @instDecidableAnd _ _ inferInstance (List.decidableBAll _ _)

/-- A text leads nowhere but to the body itself if there is nothing between its slashes. -/
lemma ofPointer_eq_root_iff {text : String} :
    AccessPath.ofPointer text = .root ↔ ∀ c ∈ text.toList, c = '/' := by
  have hpieces : AccessPath.ofPointer text = .root ↔ Text.pieces '/' text.toList = [] := by
    rw [AccessPath.ofPointer, AccessPath.root, AccessPath.mk.injEq, Text.piecesOf,
      List.map_eq_nil_iff]
  have hfilter : Text.pieces '/' text.toList = [] ↔ text.toList.filter (· != '/') = [] := by
    rw [← Text.flatten_pieces]
    constructor
    · intro hnil
      rw [hnil]
      rfl
    · intro hnil
      refine List.eq_nil_iff_forall_not_mem.mpr fun piece hpiece => ?_
      exact Text.ne_nil_of_mem_pieces hpiece (List.flatten_eq_nil_iff.mp hnil piece hpiece)
  rw [hpieces, hfilter, List.filter_eq_nil_iff]
  simp

/-- Only texts of slashes are read as the body itself. -/
lemma ofText_eq_root_iff {text : String} : ofText text = path .root ↔ IsSlashes text := by
  unfold ofText IsSlashes
  split
  · rename_i hslash
    have hne : text ≠ "" := by
      rintro rfl
      cases hslash
    rw [path.injEq, ofPointer_eq_root_iff]
    exact (and_iff_right hne).symm
  · rename_i hslash
    constructor
    · intro h
      cases h
    · rintro ⟨hne, hslashes⟩
      -- a text of slashes starts with one
      obtain ⟨c, rest, hlist⟩ := List.exists_cons_of_ne_nil (mt String.toList_eq_nil_iff.mp hne)
      rw [hlist] at hslash hslashes
      exact absurd (congrArg some (hslashes c List.mem_cons_self)) hslash

/-- The pointer of a path starts with a slash, except that of the body itself. -/
lemma head?_pointer {p : AccessPath} (h : p ≠ .root) : p.pointer.toList.head? = some '/' := by
  obtain ⟨_ | ⟨segment, rest⟩⟩ := p
  · exact absurd rfl h
  · rw [AccessPath.toList_pointer]
    rfl

/-- A parameter is read as it was written, except that the body itself becomes the empty name. -/
theorem ofText_text (text : String) :
    ofText (ofText text).text = if ofText text = path .root then name "" else ofText text := by
  by_cases hslash : text.toList.head? = some '/'
  · have hpath : ofText text = path (.ofPointer text) := if_pos hslash
    rw [hpath]
    by_cases hroot : AccessPath.ofPointer text = .root
    · rw [hroot]
      rfl
    · rw [if_neg (mt path.inj hroot)]
      show ofText (AccessPath.ofPointer text).pointer = _
      rw [ofText, if_pos (head?_pointer hroot), AccessPath.ofPointer_pointer_ofPointer]
  · have hname : ofText text = name text := if_neg hslash
    rw [hname, if_neg ParameterRef.noConfusion]
    exact hname

/-- Only texts of slashes stand for a parameter that is lost. -/
lemma ofText_text_eq_iff {text : String} :
    ofText (ofText text).text = ofText text ↔ ¬IsSlashes text := by
  rw [ofText_text, ← ofText_eq_root_iff]
  split
  · rename_i hroot
    rw [hroot]
    exact iff_of_false ParameterRef.noConfusion (not_not_intro rfl)
  · rename_i hroot
    exact iff_of_true rfl hroot

/-- A parameter that may be absent is read as it was written unless it was written in slashes. -/
lemma map_ofText_text_eq_iff {written : Option String} :
    (written.map ofText).map (fun r => ofText r.text) = written.map ofText ↔
      ∀ text, written = some text → ¬IsSlashes text := by
  cases written with
  | none => simp
  | some text => simp [ofText_text_eq_iff]

end ParameterRef

/-! ## Requests and directives -/

variable {endpoint method : String} {request : RequestId}

/-- A request that was read from its endpoint and the name of its method. -/
lemma requestOfNames_reread (h : requestOfNames endpoint method = .ok request) :
    requestOfNames request.endpoint request.method.name = .ok request := by
  unfold requestOfNames at h
  split at h
  · rw [← Except.ok.inj h]
    simp only [requestOfNames, Method.ofName?_name]
  · cases h

/-- The directive with its parameters read from what is written of them. -/
def Directive.reread (a : Directive) : Directive :=
  { a with
    producerParameter := a.producerParameter.map fun r => .ofText r.text
    consumerParameter := a.consumerParameter.map fun r => .ofText r.text }

/-! ## Written forms -/

namespace DirectiveForm

/-- The fields of an exception and their values. -/
def exceptionFields (e : ExceptionForm) : List (String × Option Json) := [
  ("consumer_endpoint", some (.string e.endpoint)),
  ("consumer_method", some (.string e.method))]

/-- An exception is read as it was written. -/
lemma decode_exception (e : ExceptionForm) :
    exceptionRecord.decoder (.ofPresent (exceptionFields e)) = .ok e := by
  have hnodup : ((exceptionFields e).map Prod.fst).Nodup := by
    show ["consumer_endpoint", "consumer_method"].Nodup
    decide
  have hrequired (name text : String) (h : (name, some (.string text)) ∈ exceptionFields e) :
      (Record.required name .string).read (.present (exceptionFields e)) = .ok text :=
    Record.read_required hnodup h rfl
  have hendpoint := hrequired "consumer_endpoint" e.endpoint (by simp [exceptionFields])
  have hmethod := hrequired "consumer_method" e.method (by simp [exceptionFields])
  exact Record.decoder_ofPresent rfl hnodup (Record.read_seq (Record.read_map hendpoint _) hmethod)

/-- The written form of a list of exceptions; an empty one is left out. -/
def writtenExceptions (exceptions : List ExceptionForm) : Option Json :=
  if exceptions.isEmpty then none
  else some (.array (exceptions.map fun e => .ofPresent (exceptionFields e)))

/-- Exceptions are read as they were written. -/
lemma decode_writtenExceptions (exceptions : List ExceptionForm) :
    (writtenExceptions exceptions).elim (.ok []) (Decoder.list exceptionRecord.decoder) =
      .ok exceptions := by
  rw [writtenExceptions]
  split
  · rename_i hempty
    rw [List.isEmpty_iff.mp hempty]
    rfl
  · show (exceptions.map _).mapM exceptionRecord.decoder = _
    rw [mapM_eq_ok_iff, List.forall₂_map_left_iff, List.forall₂_same]
    exact fun e _ => decode_exception e

/-- The fields of a written directive and their values. -/
def fields (f : DirectiveForm) : List (String × Option Json) := [
  ("producer_endpoint", some (.string f.producerEndpoint)),
  ("producer_method", some (.string f.producerMethod)),
  ("producer_resource_name", f.producerResource.map .string),
  ("consumer_endpoint", f.consumerEndpoint.map .string),
  ("consumer_method", f.consumerMethod.map .string),
  ("consumer_param", f.consumerParameter.map .string),
  ("except", writtenExceptions f.exceptions)]

/-- A written directive is read as the form that it was written in. -/
lemma decode_fields (f : DirectiveForm) : record.decoder (.ofPresent f.fields) = .ok f := by
  have hnodup : (f.fields.map Prod.fst).Nodup := by
    show ["producer_endpoint", "producer_method", "producer_resource_name", "consumer_endpoint",
      "consumer_method", "consumer_param", "except"].Nodup
    decide
  have hrequired (name text : String) (h : (name, some (.string text)) ∈ f.fields) :
      (Record.required name .string).read (.present f.fields) = .ok text :=
    Record.read_required hnodup h rfl
  have hoptional (name : String) (text : Option String) (h : (name, text.map .string) ∈ f.fields) :
      (Record.optional name .string).read (.present f.fields) = .ok text :=
    Record.read_optional_string hnodup h
  have hexcept : (Record.defaulted "except" [] (.list exceptionRecord.decoder)).read
      (.present f.fields) = .ok f.exceptions := by
    refine Record.read_defaulted hnodup ?_ (decode_writtenExceptions f.exceptions)
    simp [fields]
  -- the fields are read in order, and the last one is outermost
  have hread : record.read (.present f.fields) = .ok ⟨f.producerEndpoint, f.producerMethod,
      f.producerResource, f.consumerEndpoint, f.consumerMethod, f.consumerParameter,
      f.exceptions⟩ := by
    refine Record.read_seq ?_ hexcept
    refine Record.read_seq ?_ (hoptional "consumer_param" f.consumerParameter (by simp [fields]))
    refine Record.read_seq ?_ (hoptional "consumer_method" f.consumerMethod (by simp [fields]))
    refine Record.read_seq ?_ (hoptional "consumer_endpoint" f.consumerEndpoint (by simp [fields]))
    refine Record.read_seq ?_
      (hoptional "producer_resource_name" f.producerResource (by simp [fields]))
    refine Record.read_seq ?_ (hrequired "producer_method" f.producerMethod (by simp [fields]))
    exact Record.read_map (hrequired "producer_endpoint" f.producerEndpoint (by simp [fields])) _
  exact Record.decoder_ofPresent rfl hnodup hread

variable {f : DirectiveForm} {a : Directive}

/-- What it takes for a form to mean a directive. -/
lemma directive_eq_ok_iff : f.directive = .ok a ↔
    requestOfNames f.producerEndpoint f.producerMethod = .ok a.producer ∧
      f.consumerOf a.producer = .ok a.consumer ∧
      f.exceptions.mapM (fun e => requestOfNames e.endpoint e.method) = .ok a.exceptions ∧
      f.producerResource.map .ofText = a.producerParameter ∧
      f.consumerParameter.map .ofText = a.consumerParameter := by
  rw [directive, bind_eq_ok_iff]
  simp only [bind_eq_ok_iff]
  constructor
  · rintro ⟨producer, hproducer, consumer, hconsumer, exceptions, hexceptions, h⟩
    obtain rfl := Except.ok.inj h
    exact ⟨hproducer, hconsumer, hexceptions, rfl, rfl⟩
  · rintro ⟨hproducer, hconsumer, hexceptions, hproduced, hfed⟩
    refine ⟨_, hproducer, _, hconsumer, _, hexceptions, ?_⟩
    rw [hproduced, hfed]
    rfl

/-- The consumer of a directive that was read is given in full or not at all. -/
lemma consumerOf_form {producer : RequestId} (h : f.consumerOf producer = .ok a.consumer) :
    a.form.consumerOf producer = .ok a.consumer := by
  have hread : ∀ c, a.consumer = some c →
      requestOfNames c.endpoint c.method.name = .ok c := by
    intro c hc
    rw [hc, consumerOf] at h
    split at h
    · obtain ⟨c', hc', heq⟩ := bind_eq_ok_iff.mp ((map_eq_pure_bind _ _).symm.trans h)
      obtain rfl := Option.some.inj (Except.ok.inj heq)
      exact requestOfNames_reread hc'
    · cases h
    · cases h
  rw [consumerOf, Directive.form]
  cases hconsumer : a.consumer with
  | none => rfl
  | some c =>
    show some <$> requestOfNames c.endpoint c.method.name = _
    rw [hread c hconsumer]
    rfl

/-- The directive that was written is the one that is read, except that its parameters are read from
what is written of them. -/
lemma directive_form (h : f.directive = .ok a) : a.form.directive = .ok a.reread := by
  obtain ⟨hproducer, hconsumer, hexceptions, -, -⟩ := directive_eq_ok_iff.mp h
  have hexceptions' : a.form.exceptions.mapM (fun e => requestOfNames e.endpoint e.method) =
      .ok a.exceptions := by
    rw [Directive.form, mapM_eq_ok_iff, List.forall₂_map_left_iff]
    refine List.forall₂_same.mpr fun e he => ?_
    obtain ⟨e', -, he'⟩ := exists_of_mem_mapM hexceptions he
    exact requestOfNames_reread he'
  exact directive_eq_ok_iff.mpr ⟨requestOfNames_reread hproducer, consumerOf_form hconsumer,
    hexceptions', Option.map_map .., Option.map_map ..⟩

end DirectiveForm

/-! ## Directives and their written forms -/

namespace Directive

open ParameterRef (IsSlashes)

/-- The request is no exception, and it is the consumer if one is named. -/
def admits (a : Directive) (request : RequestId) : Bool :=
  !a.exceptions.contains request && a.consumer.all (· == request)

/-- A directive applies to a parameter if it admits the request and names the parameter. -/
lemma appliesTo_eq (a : Directive) (request : RequestId) (parameter : String)
    (place : Option AccessPath) :
    a.appliesTo request parameter place =
      (a.admits request && a.fedParameter.any fun r => r.refersTo parameter place) := by
  have hordering : a.isOrderingOnly = a.fedParameter.isNone := by
    obtain ⟨_, _, _ | r, _ | r', _⟩ := a <;> rfl
  rw [appliesTo, admits, hordering]
  cases a.fedParameter with
  | none => exact (Bool.and_false _).symm
  | some r => rfl

variable {f : DirectiveForm} {a : Directive}

lemma encode_eq (a : Directive) : a.encode = .ofPresent a.form.fields :=
  rfl

/-- A directive that was read can be written, and what was written can be read. -/
theorem decode_encode (h : f.directive = .ok a) : decode a.encode = .ok a.reread := by
  have hform : DirectiveForm.record.decoder a.encode = .ok a.form := by
    rw [encode_eq, DirectiveForm.decode_fields]
  refine bind_eq_ok_iff.mpr ⟨a.form, hform, ?_⟩
  simp only [DirectiveForm.directive_form h, Except.mapError]

/-- The parameter that is fed is read from what is written of it. -/
lemma fedParameter_reread (a : Directive) :
    a.reread.fedParameter = a.fedParameter.map fun r => .ofText r.text := by
  obtain ⟨_, _, _ | r, _ | r', _⟩ := a <;> rfl

/-- A directive is read as it was exactly if neither parameter is lost. -/
lemma reread_beq_iff : (a.reread == a) = true ↔
    a.reread.producerParameter = a.producerParameter ∧
      a.reread.consumerParameter = a.consumerParameter := by
  obtain ⟨_, _, _, _, _⟩ := a
  show (_ && (_ && (_ && (_ && _)))) = true ↔ _
  simp [reread]

/-- A directive whose fed parameter is lost still admits the same requests, but then it feeds the
parameter without a name and not the body itself. -/
lemma appliesTo_reread_iff {written : Option String}
    (hfed : a.fedParameter = written.map ParameterRef.ofText) :
    (∀ request parameter place,
        a.reread.appliesTo request parameter place = a.appliesTo request parameter place) ↔
      ∀ text, written = some text → IsSlashes text → ∀ request, a.admits request = false := by
  have hadmits : a.reread.admits = a.admits := rfl
  simp only [appliesTo_eq, fedParameter_reread, hadmits]
  constructor
  · rintro h text rfl hslashes request
    have happly := h request "" none
    rw [hfed, Option.map_some, ParameterRef.ofText_eq_root_iff.mpr hslashes] at happly
    -- what was written of the body itself is read as the parameter without a name
    have happly : (a.admits request && true) = (a.admits request && false) := happly
    simpa using happly
  · intro h request parameter place
    by_cases hrefused : a.admits request = false
    · rw [hrefused, Bool.false_and, Bool.false_and]
    · have hkept : ∀ text, written = some text → ¬IsSlashes text :=
        fun text htext hslashes => hrefused (h text htext hslashes request)
      rw [hfed, ParameterRef.map_ofText_text_eq_iff.mpr hkept]

/-- A directive that was read from its written form can be written and read again.  The requests are
the same.  The directive as a whole is the same exactly if neither parameter is written in nothing
but slashes, and it applies to the same parameters exactly if this is true of the one that is fed,
or the directive admits no request at all. -/
theorem decode_encode_iff (h : f.directive = .ok a) :
    ∃ b, decode a.encode = .ok b ∧
      b.producer = a.producer ∧ b.consumer = a.consumer ∧ b.exceptions = a.exceptions ∧
      ((b == a) = true ↔
        ∀ text, f.producerResource = some text ∨ f.consumerParameter = some text →
          ¬IsSlashes text) ∧
      ((∀ request parameter place,
          b.appliesTo request parameter place = a.appliesTo request parameter place) ↔
        ∀ text, (f.consumerParameter <|> f.producerResource) = some text → IsSlashes text →
          ∀ request, a.admits request = false) := by
  obtain ⟨-, -, -, hproduced, hfed⟩ := DirectiveForm.directive_eq_ok_iff.mp h
  refine ⟨a.reread, decode_encode h, rfl, rfl, rfl, ?_, ?_⟩
  · rw [reread_beq_iff, reread, ← hproduced, ← hfed, ParameterRef.map_ofText_text_eq_iff,
      ParameterRef.map_ofText_text_eq_iff, ← forall_and]
    exact forall_congr' fun text => or_imp.symm
  · refine appliesTo_reread_iff ?_
    rw [fedParameter, ← hproduced, ← hfed]
    cases f.consumerParameter <;> rfl

/-- A directive that feeds the identifier of an item to a request for a store. -/
def itemIdForm : DirectiveForm where
  producerEndpoint := "/items//{id}/"
  producerMethod := "post"
  producerResource := some "//item//id/"
  consumerEndpoint := some "/stores/{storeId}"
  consumerMethod := some "Get"
  consumerParameter := some "itemId"
  exceptions := [⟨"/stores", "DELETE"⟩]

/-- Repeated slashes and the case of a method do not survive, but they mean nothing. -/
theorem decode_encode_iff_itemId :
    ∃ a b, itemIdForm.directive = .ok a ∧ decode a.encode = .ok b ∧ (b == a) = true ∧
      ∀ request parameter place,
        b.appliesTo request parameter place = a.appliesTo request parameter place := by
  obtain ⟨a, ha⟩ : ∃ a, itemIdForm.directive = .ok a := ⟨_, rfl⟩
  have hitem : ¬IsSlashes "//item//id/" := by decide
  have hitemId : ¬IsSlashes "itemId" := by decide
  obtain ⟨b, hb, -, -, -, hequal, happly⟩ := decode_encode_iff ha
  refine ⟨a, b, ha, hb, hequal.mpr ?_, happly.mpr ?_⟩
  · rintro text (htext | htext)
    · rwa [← Option.some.inj htext]
    · rwa [← Option.some.inj htext]
  · intro text htext hslashes
    rw [← Option.some.inj htext] at hslashes
    exact absurd hslashes hitemId

/-- A directive that feeds the body itself. -/
def bodyForm : DirectiveForm where
  producerEndpoint := "/stores"
  producerMethod := "POST"
  producerResource := some "id"
  consumerEndpoint := none
  consumerMethod := none
  consumerParameter := some "/"
  exceptions := []

/-- A directive that feeds the body itself is read as one that feeds the parameter without a
name. -/
theorem not_forall_decode_encode : ¬∀ (f : DirectiveForm) (a : Directive), f.directive = .ok a →
    ∃ b, decode a.encode = .ok b ∧ (b == a) = true ∧
      ∀ request parameter place,
        b.appliesTo request parameter place = a.appliesTo request parameter place := by
  intro h
  obtain ⟨b, hb, hequal, -⟩ := h bodyForm _ rfl
  rw [decode_encode (f := bodyForm) rfl] at hb
  rw [← Except.ok.inj hb] at hequal
  exact absurd hequal (by decide)

end Directive

end RestFlow
