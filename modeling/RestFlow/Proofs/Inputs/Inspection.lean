import RestFlow.CommandLine.Run
import RestFlow.Files.Tree
import RestFlow.Proofs.Extraction.NamelessValues

/-!
# Inspections and runs agree on parameters

An inspection and a run go through the requests independently of each other.  Both pass over
repetitions, in their own ways, so that both look at `Interface.distinct` (`Interface.faults_eq`),
and both validate a request first of all.  The inspection goes on after a failure; the run stops at
the first request that it cannot make consumers and producers of, which may be malformed instead.

A run fails for a parameter only while it validates a request (`Setup.fault?_of_collectEntry`), and
by then it has validated all requests before, so this failure is the first one that the inspection
finds (`Setup.head?_faults_of_extract`).  If the inspection finds any failure of a request, the run
does not get past this request (`Setup.exists_extract_eq_error`).
-/

namespace RestFlow

namespace Failure

/-- The failure of a parameter that requests cannot be made of. -/
def isParameterFault : Failure → Bool
  | arrayPathParameter .. | unsupportedSerialization .. => true
  | _ => false

end Failure

/-! ## Validation -/

namespace RequestEntry

variable {e : RequestEntry} {f : Failure}

/-- The validation of a request fails as the request does. -/
lemma validate_eq_error_iff : e.validate = .error f ↔ e.fault? = some f := by
  unfold validate
  cases e.fault? with
  | none => simp
  | some g => simp

/-- The validation of a request succeeds if the request has no failure. -/
lemma validate_eq_ok_iff : e.validate = .ok () ↔ e.fault? = none := by
  unfold validate
  cases e.fault? with
  | none => simp
  | some g => simp

end RequestEntry

namespace Interface

/-- The inspection passes over the same repetitions as the run, although it keeps more of what it
has seen. -/
lemma filterMap_marked {seen seen' : List RequestId} (l : List RequestEntry)
    (h : ∀ r, seen.contains r = seen'.contains r) :
    ((marked seen l).filterMap fun (e, repeated) => if repeated then none else e.fault?) =
      (RequestEntry.distinctFrom seen' l).filterMap RequestEntry.fault? := by
  induction l generalizing seen seen' with
  | nil => rfl
  | cons e rest ih =>
    have hcons : ∀ r, (e.id :: seen).contains r = (e.id :: seen').contains r := by
      intro r
      rw [List.contains_cons, List.contains_cons, h]
    rw [marked, List.filterMap_cons, RequestEntry.distinctFrom]
    by_cases he : seen'.contains e.id = true
    · -- a request that is repeated was seen before, so that noting it again changes nothing
      have hagain : ∀ r, (e.id :: seen).contains r = seen'.contains r := by
        intro r
        rw [hcons, List.contains_cons]
        by_cases hr : (r == e.id) = true
        · rw [hr, Bool.true_or, List.contains_congr hr, he]
        · rw [Bool.eq_false_iff.mpr hr, Bool.false_or]
      rw [if_pos he, h, he]
      exact ih hagain
    · rw [if_neg he, h, Bool.eq_false_iff.mpr he, List.filterMap_cons, ih hcons]
      rfl

/-- The failures that an inspection finds are those of the requests that count. -/
theorem faults_eq (i : Interface) : i.faults = i.distinct.filterMap RequestEntry.fault? :=
  filterMap_marked i.requests fun _ => rfl

end Interface

/-! ## Runs -/

namespace Setup

variable {s : Setup} {i : Interface} {d : Dictionary} {e : RequestEntry} {f : Failure}

/-- The consumers of a request can be made unless a resource is malformed. -/
lemma isMalformed_of_consumers (h : s.consumers e = .error f) : f.isMalformed = true := by
  have hparameters : ∀ (kind : ParameterKind) (reference : String → Reference)
      (ps : List Parameter), MalformedIf (s.parameterConsumers e kind reference ps)
        (∃ l ∈ (leavesOf ps).filter fun l => l.2.isOpen,
          (Resource.fault? (reference (l.2.nameIn l.1))).isSome = true) :=
    fun _ _ _ => .mapM fun _ _ => s.malformedIf_consumer _ _ _ _
  have hpaths := MalformedIf.mapM fun l (_ : l ∈ e.data.pathParameters.filterMap
    fun p => (openPathLeaf? p).map (p, ·)) => s.malformedIf_consumer e.id .path
      (.ofPathParameter l.1.name e.id.endpoint) l.2.payload.type
  have hbodies := MalformedIf.mapM fun l (_ : l ∈ (placedLeaves e.data.body).filter
    fun l => l.2.isOpen) => s.malformedIf_consumer e.id .body (.ofPlace l.1) l.2.payload.type
  rw [consumers_eq] at h
  exact (hpaths.bind fun _ _ => (malformedIf_onDemand _ (hparameters _ _ _)).bind fun _ _ =>
    (malformedIf_onDemand _ (hparameters _ _ _)).bind fun _ _ =>
    (malformedIf_onDemand _ hbodies).bind fun _ _ => .of_eq_ok rfl).2 f h

/-- The responses of a request can be made unless a resource is malformed. -/
lemma isMalformed_of_responses (h : s.responses e = .error f) : f.isMalformed = true := by
  have hproperties := MalformedIf.mapM fun l (_ : l ∈ placedLeaves e.data.responseBody) =>
    s.malformedIf_situate .output e.id (.ofPlace l.1) l.2.payload.type
  have hheaders := MalformedIf.mapM fun l (_ : l ∈ leavesOf e.data.responseHeaders) =>
    s.malformedIf_situate .output e.id (.header (l.2.nameIn l.1)) l.2.payload.type
  exact (hproperties.bind fun _ _ => hheaders.bind fun _ _ => .of_eq_ok rfl).2 f h

/-- The collection of a request fails for a parameter only as its validation does. -/
lemma fault?_of_collectEntry (h : s.collectEntry e = .error f) (hf : f.isParameterFault = true) :
    e.fault? = some f := by
  have hsound : f.isMalformed ≠ true := by
    cases f <;> simp [Failure.isMalformed, Failure.isParameterFault] at hf ⊢
  rcases bind_eq_error_iff.mp h with h | ⟨_, -, h⟩
  · exact RequestEntry.validate_eq_error_iff.mp h
  · rcases bind_eq_error_iff.mp h with h | ⟨_, -, h⟩
    · exact absurd (isMalformed_of_consumers h) hsound
    · rcases bind_eq_error_iff.mp h with h | ⟨_, -, h⟩
      · exact absurd (isMalformed_of_responses h) hsound
      · rcases bind_eq_error_iff.mp h with h | ⟨_, -, h⟩
        · exact absurd (malformedIf_sameBody.2 f h) hsound
        · cases h

/-- A run that fails for a parameter fails as the first request that has any failure. -/
theorem head?_faults_of_extract (h : (s.extract i d).2 = .error f)
    (hf : f.isParameterFault = true) : i.faults.head? = some f := by
  rw [extract_snd] at h
  rcases bind_eq_error_iff.mp h with h | ⟨c, -, h⟩
  · have hentries : i.distinct.mapM s.collectEntry = .error f := by
      rw [collect_snd] at h
      cases hm : i.distinct.mapM s.collectEntry with
      | error g =>
        rw [hm] at h
        rw [Except.error.inj h]
      | ok parts =>
        rw [hm] at h
        cases h
    -- the requests before the first that fails were collected, so they are valid
    obtain ⟨before, e, after, hsplit, he, hbefore⟩ := exists_first_of_mapM_eq_error hentries
    have hvalid : ∀ b ∈ before, b.fault? = none := by
      intro b hb
      obtain ⟨part, hpart⟩ := hbefore b hb
      exact RequestEntry.validate_eq_ok_iff.mp (collectEntry_eq_ok_iff.mp hpart).1
    rw [Interface.faults_eq, hsplit, List.filterMap_append, List.filterMap_eq_nil_iff.mpr hvalid,
      List.nil_append, List.filterMap_cons, fault?_of_collectEntry he hf]
    rfl
  · -- after the collection nothing but a conflict can arise
    have hconflict := isConflict_of_resolve h
    cases f <;> cases hf <;> cases hconflict

/-- A run does not get past a request that has a failure. -/
theorem exists_extract_eq_error (h : i.faults ≠ []) (s : Setup) (d : Dictionary) :
    ∃ f, (s.extract i d).2 = .error f := by
  obtain ⟨f, hf⟩ := List.exists_mem_of_ne_nil _ h
  rw [Interface.faults_eq, List.mem_filterMap] at hf
  obtain ⟨e, he, hfault⟩ := hf
  have hentry : s.collectEntry e = .error f :=
    bind_eq_error_iff.mpr (.inl (RequestEntry.validate_eq_error_iff.mpr hfault))
  obtain ⟨g, hg⟩ := exists_mapM_eq_error he hentry
  refine ⟨g, ?_⟩
  rw [extract_snd, collect_snd, hg]
  rfl

end Setup

/-! ## The command -/

namespace Command

variable {t t' : FileTree} {files : InputFiles} {config : Option String} {inputs : Inputs}

/-- Once its inputs are loaded, the command shows the verdict on them and ends as the inspection
does. -/
lemma run_runValidate
    (hload : (Inputs.load files config : Attempt (StateM FileTree) Inputs).run.run t =
      (.ok inputs, t')) (format : VerdictFormat) (strict quiet : Bool) :
    (runValidate files format strict config quiet : StateM FileTree Completion).run t =
      ({ lines := (Verdict.ofInspection (.of inputs.setup inputs.interface) strict).shown format
           quiet
         trouble := (Inspection.of inputs.setup inputs.interface).trouble? strict }, t') := by
  unfold runValidate
  rw [StateT.run_bind, hload]
  rfl

/-- The inspection of inputs that could be loaded agrees with a run on them: if the run fails for a
parameter, the inspection lists this failure first and the command ends in it, and if the inspection
lists the failure of any request, the run fails. -/
theorem runValidate_agrees
    (hload : (Inputs.load files config : Attempt (StateM FileTree) Inputs).run.run t =
      (.ok inputs, t')) (format : VerdictFormat) (strict quiet : Bool) (d : Dictionary) :
    let inspection := Inspection.of inputs.setup inputs.interface
    ∃ done : Completion,
      (runValidate files format strict config quiet : StateM FileTree Completion).run t =
        (done, t') ∧
      done.lines = (Verdict.ofInspection inspection strict).shown format quiet ∧
      (∀ f, (inputs.setup.extract inputs.interface d).2 = .error f → f.isParameterFault = true →
        inspection.faults.head? = some f ∧ done.trouble = some { cause := .failure f }) ∧
      (inspection.requestFaults ≠ [] →
        ∃ f, (inputs.setup.extract inputs.interface d).2 = .error f) := by
  intro inspection
  refine ⟨_, run_runValidate hload format strict quiet, rfl, fun f hf hparameter => ?_,
    fun hfaults => Setup.exists_extract_eq_error hfaults inputs.setup d⟩
  -- failures of requests are listed before all others
  have hhead : inspection.faults.head? = some f := by
    have hfirst : inspection.requestFaults.head? = some f :=
      Setup.head?_faults_of_extract hf hparameter
    rw [Inspection.faults, List.head?_append, hfirst]
    rfl
  refine ⟨hhead, ?_⟩
  show inspection.trouble? strict = _
  rw [Inspection.trouble?, hhead]

/-- A folder with a description of the request `GET /s/{ids}`, whose path parameter is a list. -/
def listFolder : FileTree where
  nodes := .ofList [("s.json", .file (
    "\x7b\"requests\":[\x7b\"id\":\x7b\"endpoint\":\"/s/\x7bids\x7d\",\"method\":\"GET\"\x7d,\"data\":" ++
    "\x7b\"path_parameters\":[\x7b\"name\":\"ids\",\"payload\":" ++
    "\x7b\"node\":\"internal\",\"kind\":\"array\"\x7d\x7d]\x7d\x7d]\x7d").toUTF8)]

/-- The path parameter is a list. -/
def listFault : Failure :=
  .arrayPathParameter "/s/\x7bids\x7d" "ids"

/-- The description can be loaded, and a run on it fails for the list. -/
lemma extract_listFolder :
    ∃ inputs t, (Inputs.load { interface := "s.json" } none :
        Attempt (StateM FileTree) Inputs).run.run listFolder = (.ok inputs, t) ∧
      (inputs.setup.extract inputs.interface .standard).2 = .error listFault := by
  have hfails : ((Inputs.load { interface := "s.json" } none :
      Attempt (StateM FileTree) Inputs).run.run listFolder).1.toOption.map (fun inputs =>
        match (inputs.setup.extract inputs.interface .standard).2 with
        | .error f => some f
        | .ok _ => none) = some (some listFault) := by
    decide +kernel
  -- the result of loading is not to be unfolded any more
  generalize (Inputs.load { interface := "s.json" } none :
    Attempt (StateM FileTree) Inputs).run.run listFolder = loaded at hfails ⊢
  obtain ⟨result, t⟩ := loaded
  obtain ⟨inputs, rfl, hfault⟩ := exists_of_toOption_map hfails
  refine ⟨inputs, t, rfl, ?_⟩
  split at hfault
  · rename_i f hf
    rw [hf, Option.some.inj hfault]
  · cases hfault

/-- The command ends in the failure for the list, as the run does. -/
theorem runValidate_listFolder :
    ∃ inputs t done, (Inputs.load { interface := "s.json" } none :
        Attempt (StateM FileTree) Inputs).run.run listFolder = (.ok inputs, t) ∧
      (inputs.setup.extract inputs.interface .standard).2 = .error listFault ∧
      (runValidate { interface := "s.json" } .text true none true :
        StateM FileTree Completion).run listFolder = (done, t) ∧
      done.trouble = some { cause := .failure listFault } := by
  obtain ⟨inputs, t, hload, hfails⟩ := extract_listFolder
  obtain ⟨done, hdone, -, hfirst, -⟩ := runValidate_agrees hload .text true true .standard
  exact ⟨inputs, t, done, hload, hfails, hdone, (hfirst listFault hfails rfl).2⟩

end Command

end RestFlow
