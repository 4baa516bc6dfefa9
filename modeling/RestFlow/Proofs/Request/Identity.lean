import Mathlib.Order.Defs.Unbundled
import RestFlow.Proofs.Body.AccessPath
import RestFlow.Proofs.Order.Keys
import RestFlow.Request.Id

/-!
# Endpoints and identities

Endpoints are as good as their segments, and requests as good as these and the method.
-/

namespace RestFlow

/-!
## Spellings of endpoints

The segments of an endpoint are plain texts, so an endpoint is put together from them as a pointer
is from the segments of a path, and the normalized endpoint has the same segments
(`Endpoint.segments_normalize`).  Requests at one place therefore have the same segments, however
their endpoints are spelled (`RequestId.segments_eq_of_place_eq`).

A parameter is one of these segments, its name in braces (`Endpoint.isParameter_marker`), and it
ends the part of the endpoint that addresses what it names (`Endpoint.upToParameter_of_notMem`).
-/

namespace Text

variable {sep : Char}

/-- A text is cut at its first character if this is a separator. -/
lemma cut_cons (c : Char) (cs : List Char) :
    cut sep (c :: cs) =
      if c = sep then ([], (cut sep cs).1 :: (cut sep cs).2)
      else (c :: (cut sep cs).1, (cut sep cs).2) :=
  rfl

/-- The pieces that a text is cut into have no separators. -/
lemma notMem_of_mem_cut (sep : Char) (cs : List Char) :
    sep ∉ (cut sep cs).1 ∧ ∀ piece ∈ (cut sep cs).2, sep ∉ piece := by
  induction cs with
  | nil => exact ⟨List.not_mem_nil, fun _ h => nomatch h⟩
  | cons c cs ih =>
    obtain ⟨hfirst, hothers⟩ := ih
    by_cases hc : c = sep
    · rw [cut_cons, if_pos hc]
      exact ⟨List.not_mem_nil, List.forall_mem_cons.mpr ⟨hfirst, hothers⟩⟩
    · rw [cut_cons, if_neg hc]
      refine ⟨fun hmem => ?_, hothers⟩
      rcases List.mem_cons.mp hmem with rfl | hmem
      · exact hc rfl
      · exact hfirst hmem

/-- The pieces of a text have no separators. -/
lemma notMem_of_mem_pieces {cs piece : List Char} (h : piece ∈ pieces sep cs) : sep ∉ piece := by
  obtain ⟨hfirst, hothers⟩ := notMem_of_mem_cut sep cs
  rcases List.mem_cons.mp (List.mem_filter.mp h).1 with rfl | h
  · exact hfirst
  · exact hothers piece h

/-- Cutting a text drops the separators and nothing else. -/
lemma flatten_cut (sep : Char) (cs : List Char) :
    (cut sep cs).1 ++ (cut sep cs).2.flatten = cs.filter (· != sep) := by
  induction cs with
  | nil => rfl
  | cons c cs ih =>
    rw [cut_cons]
    by_cases hc : c = sep
    · simp [hc, ih]
    · simp [hc, ih]

/-- The pieces of a text are the text without the separators. -/
lemma flatten_pieces (sep : Char) (cs : List Char) :
    (pieces sep cs).flatten = cs.filter (· != sep) := by
  rw [pieces]
  dsimp only
  rw [List.flatten_filter_not_isEmpty, List.flatten_cons, flatten_cut]

end Text

namespace Endpoint

/-- The segments of an endpoint are not empty and have no slashes in them. -/
lemma isPlainSegment_of_mem_segments {endpoint segment : String}
    (h : segment ∈ segments endpoint) : AccessPath.IsPlainSegment segment := by
  obtain ⟨piece, hpiece, rfl⟩ := List.mem_map.mp h
  have hne := Text.ne_nil_of_mem_pieces hpiece
  have hslash := Text.notMem_of_mem_pieces hpiece
  constructor
  · intro hempty
    exact hne (String.ofList_injective hempty)
  · rwa [String.toList_ofList]

/-- An endpoint is spelled as a pointer along its segments is. -/
lemma ofSegments_eq_pointer {parts : List String} (h : parts ≠ []) :
    ofSegments parts = AccessPath.pointer ⟨parts⟩ := by
  refine String.toList_injective ?_
  rw [AccessPath.toList_pointer, ofSegments, String.toList_append, String.toList_intercalate]
  exact Text.cons_intercalate (mt List.map_eq_nil_iff.mp h)

/-- The segments that an endpoint is put together from are those that it has. -/
lemma segments_ofSegments {parts : List String}
    (h : ∀ part ∈ parts, AccessPath.IsPlainSegment part) : segments (ofSegments parts) = parts := by
  cases parts with
  | nil => decide
  | cons part rest =>
    rw [ofSegments_eq_pointer (List.cons_ne_nil part rest)]
    exact congrArg AccessPath.segments (AccessPath.ofPointer_pointer (p := ⟨part :: rest⟩) h)

/-- Normalizing an endpoint leaves its segments as they are. -/
theorem segments_normalize (endpoint : String) :
    segments (normalize endpoint) = segments endpoint :=
  segments_ofSegments fun _ => isPlainSegment_of_mem_segments

lemma normalize_normalize (endpoint : String) :
    normalize (normalize endpoint) = normalize endpoint :=
  congrArg ofSegments (segments_normalize endpoint)

/-- Endpoints are normalized alike exactly if they have the same segments. -/
lemma normalize_eq_iff {a b : String} : normalize a = normalize b ↔ segments a = segments b := by
  refine ⟨fun h => ?_, congrArg ofSegments⟩
  rw [← segments_normalize a, h, segments_normalize]

/-! ### Parameters in endpoints -/

/-- The segments up to a parameter are an initial part of the endpoint. -/
lemma upToParameter_prefix_segments (name endpoint : String) :
    upToParameter name endpoint <+: segments endpoint := by
  unfold upToParameter
  dsimp only
  split
  · exact List.take_prefix _ _
  · exact List.prefix_rfl

/-- The endpoint that ends with a parameter has the segments up to it. -/
lemma segments_upToParameter (name endpoint : String) :
    segments (ofSegments (upToParameter name endpoint)) = upToParameter name endpoint :=
  segments_ofSegments fun _ hpart =>
    isPlainSegment_of_mem_segments ((upToParameter_prefix_segments name endpoint).subset hpart)

/-- The segments up to a parameter end where it is met first. -/
lemma upToParameter_of_notMem {name endpoint : String} {before after : List String}
    (hsegments : segments endpoint = before ++ marker name :: after)
    (hbefore : marker name ∉ before) : upToParameter name endpoint = before ++ [marker name] := by
  have hnone : before.findIdx? (· == marker name) = none := by
    rw [List.findIdx?_eq_none_iff]
    intro part hpart
    rw [beq_eq_false_iff_ne]
    rintro rfl
    exact hbefore hpart
  have hfirst : (before ++ marker name :: after).findIdx? (· == marker name) =
      some before.length := by
    rw [List.findIdx?_append, hnone, List.findIdx?_cons, beq_self_eq_true]
    simp
  unfold upToParameter
  simp only [hsegments, hfirst]
  rw [List.append_cons]
  exact List.take_left' List.length_append

/-- The marker of a parameter is its name in braces. -/
lemma toList_marker (name : String) :
    (marker name).toList = '\x7b' :: (name.toList ++ ['\x7d']) := by
  simp [marker]

/-- The marker of a parameter is a plain segment if the name has no slashes. -/
lemma isPlainSegment_marker {name : String} (h : '/' ∉ name.toList) :
    AccessPath.IsPlainSegment (marker name) := by
  constructor
  · intro hempty
    have hlist := toList_marker name
    rw [hempty] at hlist
    cases hlist
  · simp [toList_marker, h]

/-- The marker of a parameter stands for a parameter, if it has a name. -/
lemma isParameter_marker {name : String} (h : name.toList ≠ []) :
    isParameter (marker name) = true := by
  have hlength : 2 < (marker name).toList.length := by
    have hpos := List.length_pos_of_ne_nil h
    rw [toList_marker, List.length_cons, List.length_append, List.length_singleton]
    omega
  have hhead : (marker name).toList.head? = some '\x7b' := by rw [toList_marker, List.head?_cons]
  have hlast : (marker name).toList.getLast? = some '\x7d' := by
    rw [toList_marker, ← List.cons_append, List.getLast?_concat]
  unfold isParameter
  simp only [hhead, hlast, beq_self_eq_true, Bool.and_true, decide_eq_true_eq]
  exact hlength

end Endpoint

namespace RequestId

variable {a b : RequestId}

lemma segments_eq_of_place_eq (h : a.place = b.place) : a.segments = b.segments :=
  Endpoint.normalize_eq_iff.mp h

end RequestId

/-!
## What a request is identified by

A request is identified by the segments of its endpoint and by its method.  All that depends on its
identity agrees on this: normalized endpoints (`Endpoint.normalize_eq_iff`), the order of endpoints
above each other, which is strict and does not see how they are spelled
(`Endpoint.isStrictOrder_isStrictAncestor`), equality (`RequestId.beq_iff_segments_eq`), the total
order of requests (`RequestId.comparesTotally`), and the text that is digested
(`RequestId.canonicalText_eq_iff`).  The digest itself tells requests apart as far as it tells these
texts apart (`RequestId.beq_or_collision_of_contentHash_eq`).
-/

namespace Endpoint

variable {a b : String}

/-- An endpoint is strictly above another one if its segments are the first ones of the other, and
not all of them. -/
lemma isStrictAncestor_iff :
    isStrictAncestor a b = true ↔ segments a <+: segments b ∧ segments a ≠ segments b := by
  rw [isStrictAncestor, Bool.and_eq_true, decide_eq_true_eq, List.isPrefixOf_iff_prefix]
  constructor
  · rintro ⟨hlength, hstarts⟩
    refine ⟨hstarts, fun h => ?_⟩
    rw [h] at hlength
    exact Nat.lt_irrefl _ hlength
  · rintro ⟨hstarts, hne⟩
    exact ⟨Nat.lt_of_le_of_ne hstarts.length_le (mt hstarts.eq_of_length hne), hstarts⟩

/-- No endpoint is above itself, and what is above an endpoint is above all that this one is
above. -/
theorem isStrictOrder_isStrictAncestor :
    IsStrictOrder String fun a b => isStrictAncestor a b = true where
  irrefl a h := (isStrictAncestor_iff.mp h).2 rfl
  trans a b c hab hbc := by
    obtain ⟨hab, hne⟩ := isStrictAncestor_iff.mp hab
    obtain ⟨hbc, -⟩ := isStrictAncestor_iff.mp hbc
    refine isStrictAncestor_iff.mpr ⟨hab.trans hbc, fun hac => hne ?_⟩
    -- the segments in between are initial parts of each other
    exact hab.eq_of_length_le (hac ▸ hbc.length_le)

/-- The spelling of the upper endpoint does not matter. -/
lemma isStrictAncestor_normalize_left (a b : String) :
    isStrictAncestor (normalize a) b = isStrictAncestor a b := by
  rw [isStrictAncestor, isStrictAncestor, segments_normalize]

lemma isStrictAncestor_normalize_right (a b : String) :
    isStrictAncestor a (normalize b) = isStrictAncestor a b := by
  rw [isStrictAncestor, isStrictAncestor, segments_normalize]

end Endpoint

namespace Method

/-- Different methods have different names. -/
lemma name_injective {a b : Method} (h : a.name = b.name) : a = b := by
  have hread := congrArg ofName? h
  rw [ofName?_name, ofName?_name] at hread
  exact Option.some.inj hread

lemma notMem_toList_name (m : Method) : ' ' ∉ m.name.toList := by
  cases m <;> decide

end Method

/-- Comparing orders all elements, and exactly the equal ones tie. -/
structure ComparesTotally (α : Type) [Ord α] [BEq α] : Prop where
  total : ∀ a b : α, (compare a b).isLE ∨ (compare b a).isLE
  trans : ∀ a b c : α, (compare a b).isLE → (compare b c).isLE → (compare a c).isLE
  swap : ∀ a b : α, compare b a = (compare a b).swap
  tie_iff : ∀ a b : α, compare a b = .eq ↔ (a == b) = true

namespace RequestId

/-- The request with another path in place of its alternative one. -/
def withAlternatePath (r : RequestId) (path : Option String) : RequestId :=
  { r with alternatePath := path }

variable {a b : RequestId}

/-- Requests are equal exactly if the segments of their endpoints and their methods are. -/
lemma beq_iff_segments_eq : (a == b) = true ↔ a.segments = b.segments ∧ a.method = b.method := by
  rw [beq_iff, key, key, Prod.mk.injEq]
  exact and_congr_left fun _ => Endpoint.normalize_eq_iff

/-- Requests are totally ordered. -/
theorem comparesTotally : ComparesTotally RequestId where
  total a b := by
    have hswap : compare b a = (compare a b).swap := Std.OrientedOrd.eq_swap
    rw [hswap]
    cases compare a b with
    | lt => exact .inl rfl
    | eq => exact .inl rfl
    | gt => exact .inr rfl
  trans _ _ _ := Std.TransCmp.isLE_trans
  swap _ _ := Std.OrientedOrd.eq_swap
  tie_iff _ _ := compare_eq_iff

/-- The digested text is the name of the method and the normalized endpoint, with a blank between
them. -/
lemma toList_canonicalText (r : RequestId) :
    r.canonicalText.toList = r.method.name.toList ++ ' ' :: r.place.toList := by
  rw [canonicalText, String.toList_append, String.toList_append, List.append_assoc]
  rfl

/-- The name of the method is the digested text up to the first blank. -/
lemma cut_canonicalText (r : RequestId) :
    (Text.cut ' ' r.canonicalText.toList).1 = r.method.name.toList := by
  rw [toList_canonicalText, Text.cut_append r.method.notMem_toList_name, Text.cut_cons, if_pos rfl]
  exact List.append_nil _

/-- Requests have the same digested text exactly if they are equal. -/
theorem canonicalText_eq_iff : a.canonicalText = b.canonicalText ↔ (a == b) = true := by
  rw [beq_iff, key, key, Prod.mk.injEq]
  constructor
  · intro h
    have hname : a.method.name.toList = b.method.name.toList := by
      rw [← cut_canonicalText, h, cut_canonicalText]
    have hlist := congrArg String.toList h
    rw [toList_canonicalText, toList_canonicalText, hname, List.append_cancel_left_eq] at hlist
    exact ⟨String.toList_injective (List.cons.inj hlist).2,
      Method.name_injective (String.toList_injective hname)⟩
  · rintro ⟨hplace, hmethod⟩
    rw [canonicalText, canonicalText, hplace, hmethod]

/-- Equal requests have the same content hash. -/
theorem contentHash_eq_of_beq (h : (a == b) = true) : a.contentHash = b.contentHash := by
  rw [contentHash, contentHash, canonicalText_eq_iff.mpr h]

/-- Requests that share a content hash are equal, or else their digested texts collide. -/
theorem beq_or_collision_of_contentHash_eq (h : a.contentHash = b.contentHash) :
    (a == b) = true ∨ a.canonicalText ≠ b.canonicalText ∧
      Sha256.ofText a.canonicalText = Sha256.ofText b.canonicalText := by
  by_cases htext : a.canonicalText = b.canonicalText
  · exact .inl (canonicalText_eq_iff.mp htext)
  · refine .inr ⟨htext, String.toList_injective ?_⟩
    -- the name of the algorithm is in front of both digests
    have hlist := congrArg String.toList h
    rw [contentHash, contentHash, String.toList_append, String.toList_append] at hlist
    exact List.append_cancel_left hlist

/-- Segments and method identify a request.  Endpoints have the same normal form exactly if they
have the same segments, and whether one is strictly above another is a strict order that depends on
the segments only.  Requests are equal exactly if segments and method are the same; they are totally
ordered, and exactly the equal ones tie; another path of a request makes no difference; and the
texts that are digested are the same exactly for equal requests. -/
theorem identified_by_segments_and_method :
    (∀ x, Endpoint.normalize (Endpoint.normalize x) = Endpoint.normalize x) ∧
      (∀ x y, Endpoint.normalize x = Endpoint.normalize y ↔
        Endpoint.segments x = Endpoint.segments y) ∧
      IsStrictOrder String (fun x y => Endpoint.isStrictAncestor x y = true) ∧
      (∀ x y, Endpoint.isStrictAncestor (Endpoint.normalize x) y = Endpoint.isStrictAncestor x y ∧
        Endpoint.isStrictAncestor x (Endpoint.normalize y) = Endpoint.isStrictAncestor x y) ∧
      (∀ a b : RequestId, (a == b) = true ↔ a.segments = b.segments ∧ a.method = b.method) ∧
      ComparesTotally RequestId ∧
      (∀ (a b : RequestId) (p q : Option String),
        compare (a.withAlternatePath p) (b.withAlternatePath q) = compare a b ∧
          (a.withAlternatePath p == b.withAlternatePath q) = (a == b)) ∧
      ∀ a b : RequestId, a.canonicalText = b.canonicalText ↔ (a == b) = true := by
  refine ⟨Endpoint.normalize_normalize, fun _ _ => Endpoint.normalize_eq_iff,
    Endpoint.isStrictOrder_isStrictAncestor, fun x y => ⟨?_, ?_⟩, fun _ _ => beq_iff_segments_eq,
    comparesTotally, fun _ _ _ _ => ⟨rfl, rfl⟩, fun _ _ => canonicalText_eq_iff⟩
  · exact Endpoint.isStrictAncestor_normalize_left x y
  · exact Endpoint.isStrictAncestor_normalize_right x y

end RequestId

end RestFlow
