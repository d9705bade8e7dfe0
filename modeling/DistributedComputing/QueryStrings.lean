import DistributedComputing.HttpTargets

/-!
# Query strings

How the HTTP library carries parameters: the client writes them behind the path, reads what it has
written and writes it again, and the server cuts the query into pieces and decodes them.  Every
text arrives as it is, whatever its bytes are.
-/

namespace DistributedComputing

namespace Httplib

/-! ## Parameters -/

/-- A `std::multimap`: in the order of the keys, and values of one key as they came. -/
structure Params where
  entries : List (Bytes × Bytes)
  sorted : entries.Pairwise fun first second => first.1 ≤ second.1

@[ext]
theorem Params.ext {first second : Params} (same : first.entries = second.entries) :
    first = second := by
  cases first
  cases second
  cases same
  rfl

def noParams : Params where
  entries := []
  sorted := List.Pairwise.nil

def notAfter (key : Bytes) (entry : Bytes × Bytes) : Bool :=
  decide (entry.1 ≤ key)

def emplaced (entries : List (Bytes × Bytes)) (key val : Bytes) : List (Bytes × Bytes) :=
  entries.takeWhile (notAfter key) ++ (key, val) :: entries.dropWhile (notAfter key)

theorem sorted_emplaced {entries : List (Bytes × Bytes)}
    (sorted : entries.Pairwise fun first second => first.1 ≤ second.1) (key val : Bytes) :
    (emplaced entries key val).Pairwise fun first second => first.1 ≤ second.1 := by
  unfold emplaced
  induction entries with
  | nil => exact List.pairwise_singleton _ _
  | cons entry entries ih =>
      obtain ⟨first, rest⟩ := List.pairwise_cons.mp sorted
      by_cases before : entry.1 ≤ key
      · have kept : notAfter key entry = true := decide_eq_true before
        rw [List.takeWhile_cons_of_pos kept, List.dropWhile_cons_of_pos kept, List.cons_append,
          List.pairwise_cons]
        refine ⟨fun other member => ?_, ih rest⟩
        rw [List.mem_append, List.mem_cons] at member
        rcases member with inFront | rfl | behind
        · exact first other ((List.takeWhile_prefix _).subset inFront)
        · exact before
        · exact first other ((List.dropWhile_suffix _).subset behind)
      · have dropped : ¬ notAfter key entry = true := fun kept => before (of_decide_eq_true kept)
        rw [List.takeWhile_cons_of_neg dropped, List.dropWhile_cons_of_neg dropped,
          List.nil_append, List.pairwise_cons]
        have after : key ≤ entry.1 := List.not_lt.mp fun less => before (List.le_of_lt less)
        refine ⟨fun other member => ?_, sorted⟩
        rcases List.mem_cons.mp member with rfl | behind
        · exact after
        · exact List.le_trans after (first other behind)

/-- `Params::emplace`, behind the entries of the same key. -/
def Params.emplace (params : Params) (key val : Bytes) : Params where
  entries := emplaced params.entries key val
  sorted := sorted_emplaced params.sorted key val

/-- `Params::find`. -/
def Params.find (params : Params) (name : Bytes) : Option Bytes :=
  (params.entries.find? fun entry => decide (entry.1 = name)).map Prod.snd

/-! ## The client -/

def writeParameter (entry : Bytes × Bytes) : Bytes :=
  encodeQueryComponent entry.1 ++ byte '=' :: encodeQueryComponent entry.2

def paramsToQueryStr (params : Params) : Bytes :=
  [byte '&'].intercalate (params.entries.map writeParameter)

/-- A match of `[^?]+\?.*`. -/
def hasQuery (path : Bytes) : Bool :=
  (splitOnce (byte '?') path).any fun parts =>
    !parts.1.isEmpty && !parts.2.contains (byte '\n') && !parts.2.contains (byte '\r')

def appendQueryParams (path : Bytes) (params : Params) : Bytes :=
  path ++ (if hasQuery path then byte '&' else byte '?') :: paramsToQueryStr params

/-- The path that `Client::Get` sends. -/
def getPath (path : Bytes) (params : Params) : Bytes :=
  if params.entries = [] then path else appendQueryParams path params

/-! ## The server -/

/-- The pieces that have been read, and the parameters of them. -/
def parseParameter (read : List Bytes × Params) (piece : Bytes) : List Bytes × Params :=
  if read.1.any (fun other => decide (other = piece)) then read
  else
    let key := (divide (byte '=') piece).1
    let val := (divide (byte '=') piece).2
    (piece :: read.1,
      if key = [] then read.2
      else read.2.emplace (decodeQueryComponent key) (decodeQueryComponent val))

def parseQueryText (query : Bytes) : Params :=
  ((split (byte '&') query).foldl parseParameter ([], noParams)).2

/-- What the server reads from the query of a request. -/
def Request.params (request : Request) : Params :=
  parseQueryText (divide (byte '?') request.target).2

/-! ## Texts -/

@[simp]
theorem decodeQueryComponent_nil : decodeQueryComponent [] = [] :=
  rfl

theorem encodeQueryComponent_cons (first : UInt8) (rest : Bytes) :
    encodeQueryComponent (first :: rest) =
      (if keepsInQuery first then [blankAsPlus first]
        else [byte '%', hexDigit (first.toNat / 16), hexDigit (first.toNat % 16)]) ++
        encodeQueryComponent rest := by
  have digits : ∀ number < 16, blankAsPlus (hexDigit number) = hexDigit number := by
    decide
  have bound := first.toNat_lt
  unfold encodeQueryComponent
  cases kept : keepsInQuery first with
  | true => rw [percentEncode_kept kept, List.map_cons, if_pos rfl, List.singleton_append]
  | false =>
      rw [percentEncode_escaped kept, List.map_cons, List.map_cons, List.map_cons,
        digits _ (by omega), digits _ (by omega)]
      rfl

theorem decodeQueryComponent_plain {first : UInt8} (notPercent : first ≠ byte '%')
    (rest : Bytes) :
    decodeQueryComponent (first :: rest) = plusAsBlank first :: decodeQueryComponent rest :=
  if_neg notPercent

theorem decodeQueryComponent_escape (value : UInt8) (rest : Bytes) :
    decodeQueryComponent (byte '%' :: hexDigit (value.toNat / 16) ::
        hexDigit (value.toNat % 16) :: rest) =
      value :: decodeQueryComponent rest := by
  have bound := value.toNat_lt
  have digits : ∀ number < 16, isBlank (hexDigit number) = false ∧
      hexDigit number ≠ byte '+' ∧ hexDigit number ≠ byte '-' := by
    decide
  obtain ⟨notBlank, notPlus, notMinus⟩ := digits (value.toNat / 16) (by omega)
  have pair : hexPair (hexDigit (value.toNat / 16)) (hexDigit (value.toNat % 16)) =
      some value := by
    rw [hexPair, hexValue_hexDigit (by omega), Option.bind_some, notBlank,
      if_neg (by simp [notPlus]), if_neg notMinus, hexValue_hexDigit (by omega), Option.map_some,
      Nat.div_add_mod, UInt8.ofNat_toNat]
  have escape : queryEscape (hexDigit (value.toNat / 16) :: hexDigit (value.toNat % 16) :: rest) =
      some ([value], 2) := by
    unfold queryEscape
    simp [pair]
  unfold decodeQueryComponent
  rw [decodeWith, if_pos rfl, escape, Option.elim_some, decodeWith_eq_drop]
  rfl

/-- Every text is read back. -/
theorem decodeQueryComponent_encodeQueryComponent (text : Bytes) :
    decodeQueryComponent (encodeQueryComponent text) = text := by
  have plain : ∀ number < 256, keepsInQuery (UInt8.ofNat number) = true →
      blankAsPlus (UInt8.ofNat number) ≠ byte '%' ∧
        plusAsBlank (blankAsPlus (UInt8.ofNat number)) = UInt8.ofNat number := by
    decide +kernel
  induction text with
  | nil => rfl
  | cons first rest ih =>
      rw [encodeQueryComponent_cons]
      cases kept : keepsInQuery first with
      | true =>
          have known := plain first.toNat first.toNat_lt
          rw [UInt8.ofNat_toNat] at known
          obtain ⟨notPercent, same⟩ := known kept
          rw [if_pos rfl, List.singleton_append, decodeQueryComponent_plain notPercent, same, ih]
      | false =>
          rw [if_neg Bool.false_ne_true, List.cons_append, List.cons_append, List.cons_append,
            List.nil_append, decodeQueryComponent_escape, ih]

theorem encodeQueryComponent_ne_nil {text : Bytes} (filled : text ≠ []) :
    encodeQueryComponent text ≠ [] := by
  intro empty
  have same := decodeQueryComponent_encodeQueryComponent text
  rw [empty] at same
  exact filled same.symm

/-- What no encoded text holds. -/
theorem not_mem_encodeQueryComponent {value : UInt8}
    (delimiter : value ∈ [byte '&', byte '=', byte '#', byte '\t', byte ' ']) (text : Bytes) :
    value ∉ encodeQueryComponent text := by
  intro member
  obtain ⟨original, inside, same⟩ := List.mem_map.mp member
  have none : ∀ number < 256, mayBeEncoded keepsInQuery (UInt8.ofNat number) = true →
      blankAsPlus (UInt8.ofNat number) ∉ [byte '&', byte '=', byte '#', byte '\t', byte ' '] := by
    decide +kernel
  have known := none original.toNat original.toNat_lt
  rw [UInt8.ofNat_toNat] at known
  exact known (mayBeEncoded_of_mem inside) (same ▸ delimiter)

/-! ## Pieces -/

theorem not_mem_writeParameter {value : UInt8}
    (delimiter : value ∈ [byte '&', byte '#', byte '\t', byte ' ']) (entry : Bytes × Bytes) :
    value ∉ writeParameter entry := by
  have inAll : value ∈ [byte '&', byte '=', byte '#', byte '\t', byte ' '] := by
    simp only [List.mem_cons, List.not_mem_nil, or_false] at delimiter ⊢
    tauto
  have different : value ≠ byte '=' := by
    rintro rfl
    exact absurd delimiter (by decide)
  unfold writeParameter
  simp only [List.mem_append, List.mem_cons, not_or]
  exact ⟨not_mem_encodeQueryComponent inAll _, different, not_mem_encodeQueryComponent inAll _⟩

theorem divide_writeParameter (entry : Bytes × Bytes) :
    divide (byte '=') (writeParameter entry) =
      (encodeQueryComponent entry.1, encodeQueryComponent entry.2) := by
  rw [divide, writeParameter, splitOnce_eq_some_iff.mpr
    ⟨rfl, not_mem_encodeQueryComponent (by decide) entry.1⟩, Option.getD_some]

theorem writeParameter_injective : Function.Injective writeParameter := by
  intro first second same
  have parts := congrArg (divide (byte '=')) same
  rw [divide_writeParameter, divide_writeParameter, Prod.mk.injEq] at parts
  refine Prod.ext ?_ ?_
  · rw [← decodeQueryComponent_encodeQueryComponent first.1, parts.1,
      decodeQueryComponent_encodeQueryComponent]
  · rw [← decodeQueryComponent_encodeQueryComponent first.2, parts.2,
      decodeQueryComponent_encodeQueryComponent]

theorem trim_eq_self {text : Bytes} (noBlank : byte ' ' ∉ text) (noTab : byte '\t' ∉ text) :
    trim text = text := by
  have inner : ∀ value ∈ text, isSpaceOrTab value = false := by
    intro value member
    unfold isSpaceOrTab
    rw [Bool.or_eq_false_iff]
    exact ⟨decide_eq_false fun same => noBlank (same ▸ member),
      decide_eq_false fun same => noTab (same ▸ member)⟩
  cases text with
  | nil => rfl
  | cons first rest =>
      have started : ¬ isSpaceOrTab first = true := by simp [inner first List.mem_cons_self]
      rw [trim, List.dropWhile_cons_of_neg started]
      refine List.rdropWhile_eq_self_iff.mpr fun nonempty => ?_
      rw [inner _ (List.getLast_mem nonempty)]
      exact Bool.false_ne_true

theorem split_paramsToQueryStr (params : Params) :
    split (byte '&') (paramsToQueryStr params) = params.entries.map writeParameter := by
  unfold split paramsToQueryStr
  cases isList : params.entries with
  | nil => decide
  | cons entry entries =>
      have absent : ∀ piece ∈ (entry :: entries).map writeParameter, byte '&' ∉ piece := by
        intro piece member
        obtain ⟨other, _, rfl⟩ := List.mem_map.mp member
        exact not_mem_writeParameter (by decide) other
      rw [List.splitOn_intercalate _ absent (by simp), List.map_map]
      have trimmed : (entry :: entries).map (trim ∘ writeParameter) =
          (entry :: entries).map writeParameter := by
        refine List.map_congr_left fun other _ => ?_
        exact trim_eq_self (not_mem_writeParameter (by decide) other)
          (not_mem_writeParameter (by decide) other)
      rw [trimmed, List.filter_eq_self]
      intro piece member
      obtain ⟨other, _, rfl⟩ := List.mem_map.mp member
      simp [writeParameter]

/-! ## Queries -/

theorem intercalate_concat (separator : UInt8) {pieces : List Bytes} (filled : pieces ≠ [])
    (piece : Bytes) :
    [separator].intercalate (pieces ++ [piece]) =
      [separator].intercalate pieces ++ separator :: piece := by
  induction pieces with
  | nil => exact absurd rfl filled
  | cons first pieces ih =>
      cases pieces with
      | nil => simp
      | cons second pieces =>
          have rest := ih (List.cons_ne_nil second pieces)
          rw [List.cons_append] at rest
          rw [List.cons_append, List.cons_append, List.intercalate_cons_cons, rest,
            List.intercalate_cons_cons]
          simp

theorem normalizeParameter_writeParameter (entry : Bytes × Bytes) :
    normalizeParameter (writeParameter entry) = writeParameter entry := by
  unfold normalizeParameter
  dsimp only
  rw [divide_writeParameter, decodeQueryComponent_encodeQueryComponent,
    decodeQueryComponent_encodeQueryComponent, if_pos (.inr (by simp [writeParameter])),
    writeParameter]

/-- A query that the client has written stays as it is when the client reads it again. -/
theorem normalizeQueryString_paramsToQueryStr {params : Params}
    (named : ∀ entry ∈ params.entries, entry.1 ≠ []) :
    normalizeQueryString (paramsToQueryStr params) = paramsToQueryStr params := by
  unfold normalizeQueryString
  rw [split_paramsToQueryStr]
  unfold paramsToQueryStr
  have run : ∀ later earlier : List (Bytes × Bytes), (∀ entry ∈ later, entry.1 ≠ []) →
      (later.map writeParameter).foldl
          (fun result piece =>
            if (divide (byte '=') piece).1 = [] then result
            else (if result = [] then [] else result ++ [byte '&']) ++ normalizeParameter piece)
          ([byte '&'].intercalate (earlier.map writeParameter)) =
        [byte '&'].intercalate ((earlier ++ later).map writeParameter) := by
    intro later
    induction later with
    | nil => simp
    | cons entry later ih =>
        intro earlier named
        have key := encodeQueryComponent_ne_nil (named entry List.mem_cons_self)
        have moved : earlier ++ entry :: later = earlier ++ [entry] ++ later := by simp
        rw [List.map_cons, List.foldl_cons, divide_writeParameter, if_neg key,
          normalizeParameter_writeParameter, moved, ← ih (earlier ++ [entry]) fun other member =>
            named other (List.mem_cons_of_mem _ member)]
        congr 1
        rw [List.map_append, List.map_singleton]
        cases earlier with
        | nil => simp
        | cons first earlier =>
            have filled : [byte '&'].intercalate ((first :: earlier).map writeParameter) ≠ [] := by
              cases earlier <;> simp [writeParameter]
            rw [intercalate_concat _ (by simp), if_neg filled]
            simp
  exact run params.entries [] named

theorem emplaced_last {entries : List (Bytes × Bytes)} {key : Bytes}
    (before : ∀ entry ∈ entries, entry.1 ≤ key) (val : Bytes) :
    emplaced entries key val = entries ++ [(key, val)] := by
  have whole : ∀ entry ∈ entries, notAfter key entry = true :=
    fun entry member => decide_eq_true (before entry member)
  rw [emplaced, List.takeWhile_eq_self_iff.mpr whole, List.dropWhile_eq_nil_iff.mpr whole]

theorem parseParameter_writeParameter {seen : List Bytes} {read : Params}
    {entry : Bytes × Bytes} (fresh : writeParameter entry ∉ seen) (named : entry.1 ≠ []) :
    parseParameter (seen, read) (writeParameter entry) =
      (writeParameter entry :: seen, read.emplace entry.1 entry.2) := by
  have notSeen : ¬ seen.any (fun other => decide (other = writeParameter entry)) = true := by
    simp only [List.any_eq_true, decide_eq_true_eq, exists_eq_right]
    exact fresh
  unfold parseParameter
  dsimp only
  rw [if_neg notSeen, divide_writeParameter, if_neg (encodeQueryComponent_ne_nil named),
    decodeQueryComponent_encodeQueryComponent, decodeQueryComponent_encodeQueryComponent]

/-- The server reads the parameters that the client has written, whatever their bytes are. -/
theorem parseQueryText_paramsToQueryStr {params : Params}
    (named : ∀ entry ∈ params.entries, entry.1 ≠ []) (distinct : params.entries.Nodup) :
    parseQueryText (paramsToQueryStr params) = params := by
  have run : ∀ (later earlier : List (Bytes × Bytes)) (seen : List Bytes) (read : Params),
      read.entries = earlier → (∀ piece ∈ seen, ∃ entry ∈ earlier, writeParameter entry = piece) →
        (earlier ++ later).Pairwise (fun first second => first.1 ≤ second.1) →
          (earlier ++ later).Nodup → (∀ entry ∈ later, entry.1 ≠ []) →
            ((later.map writeParameter).foldl parseParameter (seen, read)).2.entries =
              earlier ++ later := by
    intro later
    induction later with
    | nil =>
        intro earlier seen read isRead _ _ _ _
        rw [List.append_nil, ← isRead]
        rfl
    | cons entry later ih =>
        intro earlier seen read isRead known sorted nodup named
        have fresh : writeParameter entry ∉ seen := by
          intro member
          obtain ⟨other, isEarlier, same⟩ := known _ member
          obtain rfl := writeParameter_injective same
          exact (List.nodup_append.mp nodup).2.2 other isEarlier other List.mem_cons_self rfl
        have before : ∀ other ∈ read.entries, other.1 ≤ entry.1 := by
          intro other isEarlier
          exact (List.pairwise_append.mp sorted).2.2 other (isRead ▸ isEarlier) entry
            List.mem_cons_self
        rw [List.map_cons, List.foldl_cons,
          parseParameter_writeParameter fresh (named entry List.mem_cons_self), List.append_cons]
        rw [List.append_cons] at sorted nodup
        refine ih _ _ _ ?_ ?_ sorted nodup fun other member =>
          named other (List.mem_cons_of_mem _ member)
        · exact (emplaced_last before entry.2).trans (by rw [isRead])
        · intro piece member
          rcases List.mem_cons.mp member with rfl | member
          · exact ⟨entry, by simp, rfl⟩
          · obtain ⟨other, isEarlier, same⟩ := known piece member
            exact ⟨other, List.mem_append_left _ isEarlier, same⟩
  refine Params.ext ?_
  unfold parseQueryText
  rw [split_paramsToQueryStr]
  exact run params.entries [] [] noParams rfl (fun _ member => absurd member List.not_mem_nil)
    params.sorted distinct named

/-! ## Names -/

/-- Every parameter has a name of its own. -/
structure Keyed (params : Params) : Prop where
  nodup : (params.entries.map Prod.fst).Nodup
  named : [] ∉ params.entries.map Prod.fst

theorem keyed_noParams : Keyed noParams where
  nodup := List.nodup_nil
  named := List.not_mem_nil

theorem perm_emplace (params : Params) (key val : Bytes) :
    (params.emplace key val).entries.Perm ((key, val) :: params.entries) := by
  have split := List.takeWhile_append_dropWhile (p := notAfter key) (l := params.entries)
  conv_rhs => rw [← split]
  exact List.perm_middle

theorem Keyed.emplace {params : Params} (keyed : Keyed params) {key : Bytes} (filled : key ≠ [])
    (fresh : key ∉ params.entries.map Prod.fst) (val : Bytes) : Keyed (params.emplace key val) := by
  have keys := (perm_emplace params key val).map Prod.fst
  rw [List.map_cons] at keys
  constructor
  · rw [keys.nodup_iff, List.nodup_cons]
    exact ⟨fresh, keyed.nodup⟩
  · rw [keys.mem_iff, List.mem_cons, not_or]
    exact ⟨filled.symm, keyed.named⟩

theorem Params.find_emplace_self {params : Params} {key : Bytes}
    (fresh : key ∉ params.entries.map Prod.fst) (val : Bytes) :
    (params.emplace key val).find key = some val := by
  have absent : (params.entries.takeWhile (notAfter key)).find?
      (fun entry => decide (entry.1 = key)) = none := by
    rw [List.find?_eq_none]
    intro entry member same
    exact fresh (List.mem_map.mpr
      ⟨entry, (List.takeWhile_prefix _).subset member, of_decide_eq_true same⟩)
  unfold find emplace emplaced
  rw [List.find?_append, absent, Option.none_or,
    List.find?_cons_of_pos (by simp), Option.map_some]

theorem Params.find_emplace_of_ne {params : Params} {key name : Bytes} (other : name ≠ key)
    (val : Bytes) : (params.emplace key val).find name = params.find name := by
  have split := List.takeWhile_append_dropWhile (p := notAfter key) (l := params.entries)
  unfold find emplace emplaced
  rw [List.find?_append,
    List.find?_cons_of_neg (by simp [other.symm]), ← List.find?_append, split]

theorem mem_keys_emplace {params : Params} {key name val : Bytes} :
    name ∈ (params.emplace key val).entries.map Prod.fst ↔
      name = key ∨ name ∈ params.entries.map Prod.fst := by
  rw [((perm_emplace params key val).map Prod.fst).mem_iff, List.map_cons, List.mem_cons]

/-! ## Requests -/

/-- What is written behind a path. -/
def queryPart (params : Params) : Bytes :=
  if params.entries = [] then [] else byte '?' :: paramsToQueryStr params

/-- What the server gets of a path with parameters. -/
structure Carries (path : Bytes) (params : Params) : Prop where
  survives : Survives path
  named : ∀ entry ∈ params.entries, entry.1 ≠ []
  distinct : params.entries.Nodup
  short : (encode path ++ queryPart params).length ≤ requestUriMaxLength

theorem not_mem_paramsToQueryStr {value : UInt8}
    (delimiter : value ∈ [byte '#', byte '\t', byte ' ']) (params : Params) :
    value ∉ paramsToQueryStr params := by
  have different : value ≠ byte '&' := by
    rintro rfl
    exact absurd delimiter (by decide)
  have inAll : value ∈ [byte '&', byte '#', byte '\t', byte ' '] := List.mem_cons_of_mem _ delimiter
  unfold paramsToQueryStr
  induction params.entries with
  | nil => exact List.not_mem_nil
  | cons entry entries ih =>
      cases entries with
      | nil =>
          rw [List.map_singleton, List.intercalate_singleton]
          exact not_mem_writeParameter inAll entry
      | cons other entries =>
          rw [List.map_cons, List.map_cons, List.intercalate_cons_cons]
          rw [List.map_cons] at ih
          simp only [List.mem_append, List.mem_singleton, not_or]
          exact ⟨⟨not_mem_writeParameter inAll entry, different⟩, ih⟩

theorem paramsToQueryStr_ne_nil {params : Params} (filled : params.entries ≠ []) :
    paramsToQueryStr params ≠ [] := by
  unfold paramsToQueryStr
  obtain ⟨entry, entries, isList⟩ := List.exists_cons_of_ne_nil filled
  rw [isList]
  cases entries <;> simp [writeParameter]

theorem not_mem_encode {delimiter : UInt8} (plain : mayBeEncoded (fun _ => false) delimiter = false)
    {text : Bytes} (absent : delimiter ∉ text) : delimiter ∉ encode text := by
  intro member
  rcases mem_percentEncode member with ⟨inside, _⟩ | percent | digit
  · exact absent inside
  · simp [mayBeEncoded, percent] at plain
  · simp [mayBeEncoded, digit] at plain

theorem receivedTarget_eq_self {target : Bytes} (noTab : target.getLast? ≠ some (byte '\t'))
    (noBlank : byte ' ' ∉ target) (noFragment : byte '#' ∉ target) :
    receivedTarget target = target := by
  have whole : target.rdropWhile isSpaceOrTab = target := by
    refine List.rdropWhile_eq_self_iff.mpr fun nonempty blank => ?_
    rcases Bool.or_eq_true_iff.mp blank with space | tab
    · exact noBlank (of_decide_eq_true space ▸ List.getLast_mem nonempty)
    · exact noTab (by rw [List.getLast?_eq_some_getLast nonempty, of_decide_eq_true tab])
  rw [receivedTarget, whole, List.takeWhile_eq_self_iff]
  exact fun value member => decide_eq_true fun same => noFragment (same ▸ member)

/-- What `Client::Get` writes into the request line. -/
theorem pathWithQuery_getPath {path : Bytes} {params : Params} (noZero : 0 ∉ path)
    (noQuery : byte '?' ∉ path) (named : ∀ entry ∈ params.entries, entry.1 ≠ []) :
    pathWithQuery (getPath path params) = encode path ++ queryPart params := by
  unfold getPath queryPart
  split
  · rw [pathWithQuery, divide_fst, divide_snd_of_not_mem noQuery, if_pos (.inl rfl)]
    have whole : (path.takeWhile fun value => decide (value ≠ byte '?')) = path := by
      rw [List.takeWhile_eq_self_iff]
      exact fun value member => decide_eq_true fun same => noQuery (same ▸ member)
    rw [whole, encodePath, cString_eq_self noZero, encode]
  · rename_i filled
    have plain : hasQuery path = false := by
      rw [hasQuery, splitOnce_eq_none_iff.mpr noQuery, Option.any_none]
    have divided : divide (byte '?') (path ++ byte '?' :: paramsToQueryStr params) =
        (path, paramsToQueryStr params) := by
      rw [divide, splitOnce_eq_some_iff.mpr ⟨rfl, noQuery⟩, Option.getD_some]
    have query := paramsToQueryStr_ne_nil filled
    rw [appendQueryParams, plain, if_neg Bool.false_ne_true, pathWithQuery, divided,
      normalizeQueryString_paramsToQueryStr named, if_neg (by simp [query]), encodePath,
      cString_eq_self noZero, encode]

section Carries

variable {path : Bytes} {params : Params} (carries : Carries path params)

include carries

theorem isWord_target : IsWord (encode path ++ queryPart params) := by
  refine (isWord_encode carries.survives.noZero).append ?_
  unfold queryPart
  split
  · exact isWord_nil
  · refine (show IsWord [byte '?'] by unfold IsWord; decide).append ?_
    have isWord := isWord_normalizeQueryString (paramsToQueryStr params)
    rwa [normalizeQueryString_paramsToQueryStr carries.named] at isWord

theorem receivedTarget_target :
    receivedTarget (encode path ++ queryPart params) = encode path ++ queryPart params := by
  have noFragment : byte '#' ∉ encode path := not_mem_encode (by decide) carries.survives.noFragment
  unfold queryPart
  split
  · have noTab : path.rdropWhile (fun value => decide (value = byte '\t')) = path := by
      refine List.rdropWhile_eq_self_iff.mpr fun nonempty tab => carries.survives.noTab ?_
      rw [List.getLast?_eq_some_getLast nonempty, of_decide_eq_true tab]
    rw [List.append_nil, receivedTarget, rdropWhile_encode, noTab, List.takeWhile_eq_self_iff]
    exact fun value member => decide_eq_true fun same => noFragment (same ▸ member)
  · rename_i filled
    have absent : ∀ delimiter ∈ [byte '#', byte '\t', byte ' '],
        delimiter ∉ byte '?' :: paramsToQueryStr params := by
      intro delimiter isDelimiter member
      rcases List.mem_cons.mp member with rfl | member
      · exact absurd isDelimiter (by decide)
      · exact not_mem_paramsToQueryStr isDelimiter params member
    have noBlank : byte ' ' ∉ encode path := (isWord_encode carries.survives.noZero).1
    refine receivedTarget_eq_self ?_ ?_ ?_
    · rw [List.getLast?_append_of_ne_nil _ (List.cons_ne_nil _ _)]
      exact fun isLast => absent (byte '\t') (by decide) (List.mem_of_getLast? isLast)
    · simp only [List.mem_append, not_or]
      exact ⟨noBlank, absent _ (by decide)⟩
    · simp only [List.mem_append, not_or]
      exact ⟨noFragment, absent _ (by decide)⟩

theorem divide_target :
    divide (byte '?') (encode path ++ queryPart params) =
      (encode path, paramsToQueryStr params) := by
  have noQuery : byte '?' ∉ encode path := not_mem_encode (by decide) carries.survives.noQuery
  unfold queryPart
  split
  · rename_i empty
    rw [List.append_nil, divide, splitOnce_eq_none_iff.mpr noQuery, Option.getD_none,
      paramsToQueryStr, empty]
    rfl
  · rw [divide, splitOnce_eq_some_iff.mpr ⟨rfl, noQuery⟩, Option.getD_some]

/-- The server gets the path and every parameter of a request as they are. -/
theorem receive_getPath {method : Bytes} (isMethod : method ∈ methods)
    (slash : path.head? = some (byte '/')) :
    ∃ target, receive (requestLine method (pathWithQuery (getPath path params))) =
        some { method := method, target := target, path := path } ∧
      (Request.mk method target path).params = params := by
  have head : (encode path ++ queryPart params).head? = some (byte '/') := by
    obtain ⟨rest, rfl⟩ := List.head?_eq_some_iff.mp slash
    have kept : (!escapesInPath (byte '/')) = true := by decide
    rw [encode, percentEncode_kept kept]
    rfl
  have received := receivedTarget_target carries
  have divided := divide_target carries
  have targetShort := carries.short
  have methodShort : ∀ known ∈ methods, known.length ≤ 7 := by decide
  have lineShort : (requestLine method (encode path ++ queryPart params)).length ≤
      maxLineLength := by
    have bound := methodShort method isMethod
    have ending : (ascii " HTTP/1.1\r\n").length = 11 := by decide
    simp only [requestLine, List.length_append, List.length_cons, ending, maxLineLength,
      requestUriMaxLength] at targetShort ⊢
    omega
  refine ⟨encode path ++ queryPart params, ?_, ?_⟩
  · rw [pathWithQuery_getPath carries.survives.noZero carries.survives.noQuery carries.named,
      receive_requestLine_iff isMethod (isWord_target carries) head, received, divided,
      decodePathComponent_encode, carries.survives.noEscape]
    exact ⟨lineShort, targetShort, rfl⟩
  · rw [Request.params, divided, parseQueryText_paramsToQueryStr carries.named carries.distinct]

end Carries

end Httplib

end DistributedComputing
