import StatusLookup.Proofs.Key.Clean

/-!
# The key of a status record

A status key is cleaned as a whole, so double dots of the id may take away names of the prefix. What
the id amounts to on its own is read off its clean form: the double dots that are left at the front
and the names after them. The first are taken from the names of the prefix and the second follow
what is left of it; only double dots that the prefix cannot take stay in the key.
-/

namespace StatusLookup

namespace Key

/-- The key without its leading slashes. -/
def unrooted (key : String) : String :=
  String.ofList (key.toList.dropWhile (· == '/'))

/-- How many double dots the clean form of a key starts with, its leading slashes aside. -/
def climbs (key : String) : Nat :=
  ((segments (clean (unrooted key))).takeWhile (· == "..")).length

/-- The names in the clean form of a key. A single dot holds none. -/
def surviving (key : String) : List String :=
  if clean (unrooted key) = "." then []
  else (segments (clean (unrooted key))).dropWhile (· == "..")

theorem isRooted_unrooted (key : String) : isRooted (unrooted key) = false := by
  have first := List.head?_dropWhile_not (· == '/') key.toList
  simp only [isRooted, unrooted, String.toList_ofList]
  split at first
  · rename_i c head
    rw [head]
    simpa using first
  · rename_i head
    rw [head]
    rfl

/-- Leading slashes are empty segments, and lead nowhere. -/
theorem ofKey_unrooted (key : String) : Route.ofKey (unrooted key) = Route.ofKey key := by
  suffices ∀ text : List Char,
      Route.ofKey (String.ofList (text.dropWhile (· == '/'))) = Route.ofKey (String.ofList text) by
    simpa [unrooted] using this key.toList
  intro text
  induction text with
  | nil => rfl
  | cons c text ih =>
      by_cases slash : c = '/'
      · subst slash
        have split : String.ofList ('/' :: text) = "" ++ "/" ++ String.ofList text :=
          String.toList_inj.mp (by simp)
        have empty : Route.ofKey "" = Route.still := rfl
        rw [List.dropWhile_cons_of_pos (by simp), ih, split, Route.ofKey_append_slash, empty,
          Route.still_comp]
      · rw [List.dropWhile_cons_of_neg (by simpa using slash)]

/-- In the segments of a route the double dots end where the names begin. -/
private theorem takeWhile_dots (route : Route) :
    route.segments.takeWhile (· == "..") = List.replicate route.climbs ".." ∧
      route.segments.dropWhile (· == "..") = route.names.reverse := by
  have dots : ∀ segment ∈ List.replicate route.climbs "..", (segment == "..") = true := by
    intro segment member
    simp [List.eq_of_mem_replicate member]
  have names : ∀ name ∈ route.names.reverse, ¬ (name == "..") = true := by
    intro name member
    simpa using (route.isName name (List.mem_reverse.mp member)).2.2.1
  rw [Route.segments, List.takeWhile_append_of_pos dots, List.dropWhile_append_of_pos dots]
  cases entered : route.names.reverse with
  | nil => simp
  | cons name rest =>
      have top := names name (entered ▸ List.mem_cons_self)
      simp [List.takeWhile_cons_of_neg (p := (· == "..")) top,
        List.dropWhile_cons_of_neg (p := (· == "..")) top]

/-- The clean form of a key starts with as many double dots as its route climbs levels. -/
theorem climbs_eq (key : String) : climbs key = (Route.ofKey key).climbs := by
  rw [climbs, segments_clean_of_relative (isRooted_unrooted key), ofKey_unrooted]
  split
  · rename_i none
    have dots := takeWhile_dots (Route.ofKey key)
    rw [none] at dots
    simpa using congrArg List.length dots.1
  · rw [(takeWhile_dots _).1, List.length_replicate]

/-- The names in the clean form of a key are those that its route enters. -/
theorem surviving_eq (key : String) : surviving key = (Route.ofKey key).names.reverse := by
  have nothing := clean_eq_dot_iff (isRooted_unrooted key)
  rw [surviving, segments_clean_of_relative (isRooted_unrooted key)]
  simp only [nothing, ofKey_unrooted]
  split
  · rename_i none
    rw [Route.segments, List.append_eq_nil_iff] at none
    exact none.2.symm
  · exact (takeWhile_dots _).2

/-- Empty parts add nothing to the route of a list of parts. -/
private theorem ofList_flatMap_filter (parts : List String) :
    Route.ofList ((parts.filter fun part => part ≠ "").flatMap segments) =
      Route.ofList (parts.flatMap segments) := by
  induction parts with
  | nil => rfl
  | cons part parts ih =>
      by_cases empty : part = ""
      · rw [List.filter_cons_of_neg (by simpa using empty), ih, empty, List.flatMap_cons,
          segments_empty, Route.ofList_append]
        simp
      · rw [List.filter_cons_of_pos (by simpa using empty), List.flatMap_cons, List.flatMap_cons,
          Route.ofList_append, Route.ofList_append, ih]

/-- Parts that are not all empty are joined to one key and cleaned. The route of that key takes the
segments of all parts in turn. -/
theorem join_eq_clean (parts : List String) (some : ∃ part ∈ parts, part ≠ "") :
    ∃ key, join parts = clean key ∧ Route.ofKey key = Route.ofList (parts.flatMap segments) ∧
      segments key = (parts.filter fun part => part ≠ "").flatMap segments := by
  have left : (parts.filter fun part => part ≠ "") ≠ [] := by
    obtain ⟨part, member, filled⟩ := some
    exact List.ne_nil_of_mem (List.mem_filter.mpr ⟨member, by simpa using filled⟩)
  have split := segments_ofSegments_flatMap left
  refine ⟨ofSegments (parts.filter fun part => part ≠ ""), ?_, ?_, split⟩
  · rw [join, if_neg]
    refine mt (ofSegments_eq_empty_iff ?_).mp left
    intro part member
    simpa using (List.mem_filter.mp member).2
  · rw [Route.ofKey, split, ofList_flatMap_filter]

end Key

namespace KeyPrefix

theorem segments_text (p : KeyPrefix) : Key.segments p.text = p.names :=
  Key.segments_ofSegments p.names_ne_nil fun name member => (p.isName name member).2.2.2

theorem text_ne_empty (p : KeyPrefix) : p.text ≠ "" := by
  intro empty
  have filled := Key.ofSegments_eq_empty_iff fun name member => (p.isName name member).1
  exact p.names_ne_nil (filled.mp empty)

/-- A status key is the clean form of a relative key whose route goes down the prefix, takes the id,
and then enters the record. -/
theorem statusKey_eq_clean (p : KeyPrefix) (id : String) :
    ∃ key, p.statusKey id = Key.clean key ∧ Key.isRooted key = false ∧
      Key.Route.ofKey key =
        (Key.Route.ofList p.names).comp
          ((Key.Route.ofKey id).comp (Key.Route.enter "status" (by decide))) := by
  obtain ⟨key, cleaned, route, split⟩ :=
    Key.join_eq_clean [p.text, id, "status"] ⟨"status", by simp, by decide⟩
  refine ⟨key, cleaned, ?_, ?_⟩
  · obtain ⟨first, rest, names⟩ := List.exists_cons_of_ne_nil p.names_ne_nil
    rw [List.filter_cons_of_pos (by simpa using p.text_ne_empty), List.flatMap_cons, segments_text,
      names, List.cons_append] at split
    exact Key.isRooted_eq_false split (p.isName first (names ▸ List.mem_cons_self)).1
  · have record : Key.segments "status" = ["status"] := Key.segments_of_slash_notMem (by decide)
    rw [route, List.flatMap_cons, List.flatMap_cons, List.flatMap_cons, List.flatMap_nil,
      segments_text, record, List.append_nil, Key.Route.ofList_append, Key.Route.ofList_append]
    rfl

/-- A status key spells a route: what the prefix cannot take of the climb, and then what the id
leaves of the prefix, the names of the id, and the record. -/
theorem exists_route_statusKey (p : KeyPrefix) (id : String) :
    ∃ route : Key.Route, Key.segments (p.statusKey id) = route.segments ∧
      route.climbs = Key.climbs id - p.names.length ∧
      route.names.reverse =
        p.names.take (p.names.length - Key.climbs id) ++ Key.surviving id ++ ["status"] := by
  obtain ⟨key, cleaned, relative, route⟩ := p.statusKey_eq_clean id
  obtain ⟨level, names⟩ := Key.Route.ofList_of_isName p.isName
  have entered : (Key.Route.ofKey key).names.reverse =
      p.names.take (p.names.length - Key.climbs id) ++ Key.surviving id ++ ["status"] := by
    simp [route, names, Key.climbs_eq, Key.surviving_eq, List.drop_reverse]
  refine ⟨Key.Route.ofKey key, ?_, ?_, entered⟩
  · rw [cleaned, Key.segments_clean_of_relative relative, if_neg]
    simp [Key.Route.segments, entered]
  · simp [route, level, names, Key.climbs_eq]

theorem segments_statusKey (p : KeyPrefix) (id : String) :
    Key.segments (p.statusKey id) =
      List.replicate (Key.climbs id - p.names.length) ".." ++
        (p.names.take (p.names.length - Key.climbs id) ++ Key.surviving id ++ ["status"]) := by
  obtain ⟨route, split, climbs, names⟩ := p.exists_route_statusKey id
  rw [split, Key.Route.segments, climbs, names]

/-- The closed form by cases: a climb within the prefix leaves names alone, and a climb beyond it
leaves no name of the prefix. -/
theorem segments_statusKey_eq_ite (p : KeyPrefix) (id : String) :
    Key.segments (p.statusKey id) =
      if Key.climbs id ≤ p.names.length then
        p.names.take (p.names.length - Key.climbs id) ++ Key.surviving id ++ ["status"]
      else
        List.replicate (Key.climbs id - p.names.length) ".." ++ Key.surviving id ++ ["status"] := by
  rw [segments_statusKey]
  split
  · rename_i within
    rw [Nat.sub_eq_zero_of_le within, List.replicate_zero, List.nil_append]
  · rename_i beyond
    rw [Nat.sub_eq_zero_of_le (Nat.le_of_not_le beyond), List.take_zero, List.nil_append,
      List.append_assoc]

theorem getLast?_segments_statusKey (p : KeyPrefix) (id : String) :
    (Key.segments (p.statusKey id)).getLast? = some "status" := by
  rw [segments_statusKey, ← List.append_assoc, ← List.append_assoc, List.getLast?_concat]

theorem statusKey_ne_empty (p : KeyPrefix) (id : String) : p.statusKey id ≠ "" := by
  intro empty
  have last := p.getLast?_segments_statusKey id
  rw [empty, Key.segments_empty] at last
  exact absurd last (by decide)

/-- All segments of a status key are names if and only if the prefix takes the whole climb. -/
theorem forall_isName_segments_statusKey_iff (p : KeyPrefix) (id : String) :
    (∀ segment ∈ Key.segments (p.statusKey id), Key.IsName segment) ↔
      Key.climbs id ≤ p.names.length := by
  obtain ⟨route, split, climbs, _⟩ := p.exists_route_statusKey id
  rw [split, Key.Route.forall_isName_segments_iff, climbs, Nat.sub_eq_zero_iff_le]

private theorem exists_append_eq_concat_iff {front names : List String} {last : String} :
    (∃ rest, rest ≠ [] ∧ names ++ [last] = front ++ rest) ↔ front <+: names := by
  constructor
  · rintro ⟨rest, ne_nil, split⟩
    rw [← List.dropLast_concat_getLast ne_nil, ← List.append_assoc] at split
    exact ⟨rest.dropLast, (List.append_inj_left' split rfl).symm⟩
  · rintro ⟨back, rfl⟩
    exact ⟨back ++ [last], by simp, List.append_assoc front back [last]⟩

/-- Where the prefix takes the whole climb, the status key lies below the prefix if and only if the
id leads down again by the names that it took away. -/
theorem exists_statusKey_eq_iff (p : KeyPrefix) {id : String}
    (within : Key.climbs id ≤ p.names.length) :
    (∃ back, p.statusKey id = p.text ++ "/" ++ back) ↔
      p.names.drop (p.names.length - Key.climbs id) <+: Key.surviving id := by
  have level : Key.climbs id - p.names.length = 0 := Nat.sub_eq_zero_of_le within
  have cancel (rest : List String) :
      Key.segments (p.statusKey id) = p.names ++ rest ↔
        Key.surviving id ++ ["status"] =
          p.names.drop (p.names.length - Key.climbs id) ++ rest := by
    have names : p.names ++ rest = p.names.take (p.names.length - Key.climbs id) ++
        (p.names.drop (p.names.length - Key.climbs id) ++ rest) := by
      rw [← List.append_assoc, List.take_append_drop]
    rw [segments_statusKey, level, List.replicate_zero, List.nil_append, List.append_assoc, names,
      List.append_cancel_left_eq]
  rw [Key.exists_eq_append_slash_iff, segments_text]
  simp only [cancel]
  exact exists_append_eq_concat_iff

theorem isRooted_statusKey (p : KeyPrefix) (id : String) :
    Key.isRooted (p.statusKey id) = false := by
  obtain ⟨key, cleaned, relative, _⟩ := p.statusKey_eq_clean id
  rw [cleaned, Key.isRooted_clean, relative]

end KeyPrefix

end StatusLookup
