import Mathlib.Data.List.TakeWhile
import Storyboard.Proofs.Outcome
import Storyboard.Proofs.Text.LetterCase
import Storyboard.Proofs.Text.Splitting
import Storyboard.Url.Basic

/-!
# Addresses below another one

A path that is written behind the address of a site is read as a path there: it does not change
which host is called, and brings neither a query nor a fragment (`Site.parse_append`). A segment
that stands for itself is read as it is, and what stands above it is read the same whatever the
segment is (`webPath_concat`, `above_concat`).
-/

namespace Storyboard.Url

/-! ## Segments -/

/-- A segment of a path stands for itself: no character of it has to be encoded or parts it, and it
does not lead to the segment that it is in or to the one above. -/
structure IsLiteral (segment : List Char) : Prop where
  /-- The characters are visible ones of ASCII that no path encodes, and no slashes. -/
  plain : ∀ c ∈ segment, 0x20 < c.toNat ∧ c.toNat < 0x7F ∧ c ∉ pathSet ∧ c ≠ '/' ∧ c ≠ '\\'
  /-- It is not the segment for staying. -/
  not_dot : isDot segment = false
  /-- It is not the segment for going up. -/
  not_doubleDot : isDoubleDot segment = false

/-- The segments of a path stand for themselves. -/
def IsPlain (path : List Char) : Prop := ∀ segment ∈ Text.splitOn '/' path, IsLiteral segment

/-- A path begins with a slash, if there is anything. -/
def IsRooted (path : List Char) : Prop := path = [] ∨ ∃ rest, path = '/' :: rest

/-- A character of a path, in which a backslash is a slash. -/
def asSlash (c : Char) : Char := if c = '\\' then '/' else c

/-- The segments behind the slashes of a path, in their written form. -/
def segments (path : List Char) : List (List Char) :=
  ((Text.splitOn '/' (path.map asSlash)).drop 1).map (percentEncode pathSet)

/-- The finished segments with one more segment carried out; newest first. -/
def settle (done : List (List Char)) (segment : List Char) : List (List Char) :=
  if isDoubleDot segment then done.drop 1 else if isDot segment then done else segment :: done

/-- How the part of a path is read that more segments follow. -/
def above (path : List Char) : List Char :=
  ((segments path).foldl settle []).reverse.flatMap ('/' :: ·)

variable {path name segment rest : List Char} {pieces done : List (List Char)}

theorem percentEncode_of_plain {set : List Char}
    (h : ∀ c ∈ segment, 0x20 < c.toNat ∧ c.toNat < 0x7F ∧ c ∉ set) :
    percentEncode set segment = segment := by
  unfold percentEncode
  induction segment with
  | nil => rfl
  | cons c cs ih =>
    obtain ⟨hlow, hhigh, hset⟩ := h c (by simp)
    rw [List.flatMap_cons, ih fun d hd => h d (by simp [hd])]
    simp [Nat.not_lt.mpr hlow.le, Nat.not_le.mpr hhigh, hset]

/-- A segment without dots and percent signs leads nowhere else. -/
theorem not_leads (h : ∀ c ∈ segment, c ≠ '.' ∧ c ≠ '%') :
    isDot segment = false ∧ isDoubleDot segment = false := by
  have hwords : ∀ word ∈ [".", "%2e", "..", ".%2e", "%2e.", "%2e%2e"],
      String.ofList (segment.map Char.toLower) ≠ word := by
    have hheads : ∀ word ∈ [".", "%2e", "..", ".%2e", "%2e.", "%2e%2e"],
        ∃ d ∈ ['.', '%'], word.toList.head? = some d := by simp
    intro word hword heq
    obtain ⟨d, hd, hhead⟩ := hheads word hword
    have hsmall : ∀ d ∈ ['.', '%'], d.toNat < 97 := by simp
    rw [← heq, String.toList_ofList, List.head?_map, Option.map_eq_some_iff] at hhead
    obtain ⟨c, hc, hlower⟩ := hhead
    obtain rfl := Text.eq_of_toLower_eq (hsmall d hd) hlower
    have hne := h c (List.mem_of_mem_head? hc)
    simp [hne.1, hne.2] at hd
  constructor
  · simpa [isDot] using ⟨hwords "." (by simp), hwords "%2e" (by simp)⟩
  · rw [isDoubleDot, decide_eq_false_iff_not]
    exact fun hmem => hwords _ (List.mem_cons_of_mem _ (List.mem_cons_of_mem _ hmem)) rfl

namespace IsLiteral

theorem percentEncode_eq (h : IsLiteral segment) : percentEncode pathSet segment = segment :=
  percentEncode_of_plain fun c hc => ⟨(h.plain c hc).1, (h.plain c hc).2.1, (h.plain c hc).2.2.1⟩

theorem slash_not_mem (h : IsLiteral segment) : '/' ∉ segment :=
  fun hslash => (h.plain _ hslash).2.2.2.1 rfl

theorem map_asSlash (h : IsLiteral segment) : segment.map asSlash = segment :=
  (List.map_congr_left fun c hc => if_neg (h.plain c hc).2.2.2.2).trans (List.map_id' _)

theorem settle_eq (h : IsLiteral segment) (done : List (List Char)) :
    settle done segment = segment :: done := by
  rw [settle, h.not_doubleDot, h.not_dot, if_neg Bool.false_ne_true, if_neg Bool.false_ne_true]

end IsLiteral

/-- Segments in front of one that stands for itself are carried out one after another. -/
theorem resolveDots_concat (h : IsLiteral name) :
    resolveDots (pieces ++ [name]) done = (pieces.foldl settle done).reverse ++ [name] := by
  induction pieces generalizing done with
  | nil => simp [resolveDots, h.not_dot, h.not_doubleDot]
  | cons segment more ih =>
    have hrest : more ++ [name] ≠ [] := by simp
    rw [List.foldl_cons, ← ih, List.cons_append, resolveDots, settle]
    · split
      · rfl
      · split <;> rfl
    · exact hrest

theorem cons_joinWith {sep : Char} (h : pieces ≠ []) :
    sep :: Text.joinWith sep pieces = pieces.flatMap (sep :: ·) := by
  induction pieces with
  | nil => exact absurd rfl h
  | cons piece more ih =>
    cases more with
    | nil => simp [Text.joinWith]
    | cons next more =>
      rw [Text.joinWith, ih (by simp)]
      · simp
      · simp

/-! ## Paths -/

theorem IsRooted.exists_concat (h : IsRooted path) (name : List Char) :
    ∃ rest, path ++ '/' :: name = '/' :: rest := by
  rcases h with rfl | ⟨rest, rfl⟩
  · exact ⟨name, rfl⟩
  · exact ⟨rest ++ '/' :: name, rfl⟩

theorem segments_slash (rest : List Char) :
    segments ('/' :: rest) =
      (Text.splitOn '/' (rest.map asSlash)).map (percentEncode pathSet) := by
  have hslash : asSlash '/' = '/' := rfl
  rw [segments, List.map_cons, hslash, Text.splitOn_cons_sep, List.drop_one, List.tail_cons]

theorem segments_concat (h : IsLiteral name) (path : List Char) :
    segments (path ++ '/' :: name) = segments path ++ [name] := by
  have hslash : asSlash '/' = '/' := rfl
  have hpieces : 1 ≤ (Text.splitOn '/' (path.map asSlash)).length :=
    List.length_pos_iff.mpr Text.splitOn_ne_nil
  unfold segments
  rw [List.map_append, List.map_cons, hslash, h.map_asSlash, Text.splitOn_append_sep,
    Text.splitOn_of_not_mem h.slash_not_mem, List.drop_append_of_le_length hpieces, List.map_append,
    List.map_singleton, h.percentEncode_eq]

/-- A segment that stands for itself comes below what is above it. -/
theorem above_concat (h : IsLiteral name) (path : List Char) :
    above (path ++ '/' :: name) = above path ++ '/' :: name := by
  unfold above
  rw [segments_concat h, List.foldl_append, List.foldl_cons, List.foldl_nil, h.settle_eq,
    List.reverse_cons, List.flatMap_append, List.flatMap_singleton]

theorem foldl_settle_of_literal (h : ∀ segment ∈ pieces, IsLiteral segment) :
    pieces.foldl settle done = pieces.reverse ++ done := by
  induction pieces generalizing done with
  | nil => rfl
  | cons segment more ih =>
    rw [List.foldl_cons, (h segment (by simp)).settle_eq, ih fun s hs => h s (by simp [hs]),
      List.reverse_cons, List.append_assoc, List.singleton_append]

/-- A path is read as it is written if all its segments stand for themselves. -/
theorem above_of_plain (hrooted : IsRooted path) (h : IsPlain path) : above path = path := by
  rcases hrooted with rfl | ⟨rest, rfl⟩
  · rfl
  have hliteral : ∀ segment ∈ Text.splitOn '/' rest, IsLiteral segment := fun segment hmem =>
    h segment (by rw [Text.splitOn_cons_sep]; exact List.mem_cons_of_mem _ hmem)
  have hrest : '/' :: rest = (Text.splitOn '/' rest).flatMap ('/' :: ·) := by
    rw [← cons_joinWith Text.splitOn_ne_nil, Text.joinWith_splitOn]
  have hchars : rest.map asSlash = rest := by
    refine (List.map_congr_left fun c hc => if_neg ?_).trans (List.map_id' _)
    have hmem : c ∈ (Text.splitOn '/' rest).flatMap ('/' :: ·) :=
      hrest ▸ List.mem_cons_of_mem _ hc
    obtain ⟨segment, hsegment, hc⟩ := List.mem_flatMap.mp hmem
    rcases List.mem_cons.mp hc with rfl | hc
    · decide
    · exact ((hliteral segment hsegment).plain c hc).2.2.2.2
  have hencoded : (Text.splitOn '/' rest).map (percentEncode pathSet) = Text.splitOn '/' rest :=
    (List.map_congr_left fun segment hmem => (hliteral segment hmem).percentEncode_eq).trans
      (List.map_id' _)
  rw [above, segments_slash, hchars, hencoded, foldl_settle_of_literal hliteral, List.append_nil,
    List.reverse_reverse, ← hrest]

/-- Below what is above it, a segment that stands for itself ends the path that is read. -/
theorem webPath_concat (hrooted : IsRooted path) (h : IsLiteral name) :
    webPath (path ++ '/' :: name) = String.ofList (above path ++ '/' :: name) := by
  obtain ⟨rest, hrest⟩ := hrooted.exists_concat name
  have hsegments : (Text.splitOn '/' (rest.map asSlash)).map (percentEncode pathSet) =
      segments path ++ [name] := by
    rw [← segments_slash, ← hrest, segments_concat h]
  rw [hrest]
  show absolutePath (rest.map asSlash) = _
  rw [absolutePath, hsegments, resolveDots_concat h, cons_joinWith (by simp), List.flatMap_append,
    List.flatMap_singleton]
  rfl

/-! ## Sites -/

/-- The address of a site as it is written: a scheme of the web, a host, and perhaps a port. -/
structure Site where
  /-- The scheme. -/
  scheme : List Char
  /-- The host and the port. -/
  authority : List Char
  /-- What is read. -/
  origin : Url
  /-- The scheme is one of the web, in any letter case. -/
  web : String.ofList (scheme.map Char.toLower) ∈ ["http", "https"]
  /-- There is a host. -/
  filled : authority ≠ []
  /-- No user comes before the host, and nothing but the port behind it. -/
  plain : ∀ c ∈ authority, 0x20 < c.toNat ∧ c ∉ ['/', '\\', '?', '#', '@']
  /-- It can be read. -/
  parse_eq : parse (String.ofList (scheme ++ "://".toList ++ authority)) = .ok origin

/-- What may be written behind a host as a path: nothing, or something from a slash on, with neither
a query nor a fragment. -/
structure IsPath (path : List Char) : Prop where
  /-- It begins with a slash, if there is anything. -/
  rooted : IsRooted path
  /-- Nothing ends it. -/
  plain : ∀ c ∈ path, 0x20 < c.toNat ∧ c ≠ '?' ∧ c ≠ '#'

/-- A path goes on with a segment that stands for itself. -/
theorem IsPath.concat (hpath : IsPath path) (h : IsLiteral name) :
    IsPath (path ++ '/' :: name) := by
  refine ⟨.inr (hpath.rooted.exists_concat name), fun c hc => ?_⟩
  rcases List.mem_append.mp hc with hc | hc
  · exact hpath.plain c hc
  rcases List.mem_cons.mp hc with rfl | hc
  · decide
  · obtain ⟨hlow, -, hset, -⟩ := h.plain c hc
    have hmarks : '?' ∈ pathSet ∧ '#' ∈ pathSet := by decide
    exact ⟨hlow, fun heq => hset (heq ▸ hmarks.1), fun heq => hset (heq ▸ hmarks.2)⟩

theorem significant_of_plain {cs : List Char} (h : ∀ c ∈ cs, 0x20 < c.toNat) :
    significant cs = cs := by
  have hedge : ∀ {ds : List Char}, (∀ c ∈ ds, c ∈ cs) → ds.dropWhile isEdge = ds := fun hsub =>
    List.dropWhile_eq_self_iff.mpr fun hpos => by
      simpa [isEdge] using h _ (hsub _ (List.getElem_mem hpos))
  have hkept : ∀ c ∈ cs, (!(c = '\t' || c = '\n' || c = '\r')) = true := by
    intro c hc
    have hlow := h c hc
    have hcontrol : c ∉ ['\t', '\n', '\r'] := by
      have hall : ∀ d ∈ ['\t', '\n', '\r'], d.toNat ≤ 0x20 := by simp
      exact fun hmem => absurd (hall c hmem) (Nat.not_le.mpr hlow)
    simpa [and_assoc] using hcontrol
  rw [significant, hedge fun _ => id, hedge fun _ => List.mem_reverse.mp, List.reverse_reverse,
    List.filter_eq_self.mpr hkept]

/-- The part before the first colon is the scheme, if it has letters only. -/
theorem scheme?_of_letters {scheme : List Char} (hne : scheme ≠ [])
    (h : ∀ c ∈ scheme, c.isAlpha = true) (rest : List Char) :
    scheme? (scheme ++ ':' :: rest) = some (String.ofList (scheme.map Char.toLower), rest) := by
  have hchars : ∀ c ∈ scheme, isSchemeChar c = true := fun c hc => by
    simp [isSchemeChar, Char.isAlphanum, h c hc]
  have hcolon : isSchemeChar ':' = false := by decide
  obtain ⟨c, cs, rfl⟩ := List.exists_cons_of_ne_nil hne
  rw [scheme?, List.dropWhile_append_of_pos hchars, List.takeWhile_append_of_pos hchars]
  simp [hcolon, h c]

/-! ## Reading -/

theorem mem_of_mem_splitPort {cs : List Char} {bracket : Bool} {c : Char}
    (h : c ∈ (splitPort cs bracket).2) : c ∈ cs := by
  induction cs generalizing bracket with
  | nil => simp [splitPort] at h
  | cons d ds ih =>
    unfold splitPort at h
    split at h
    · exact h
    · exact List.mem_cons_of_mem _ (ih h)

/-- An address of the web has a host. -/
theorem isSome_of_parseHost {cs : List Char} {host : Option Host}
    (h : parseHost .web cs = .ok host) : host.isSome = true := by
  simp only [parseHost] at h
  split at h
  · exact absurd h (by simp)
  · cases hparse : Host.parse cs with
    | error e => simp [hparse, Except.map] at h
    | ok value =>
      rw [hparse] at h
      obtain rfl := Except.ok.inj h
      rfl

/-- A path without a query and a fragment is all that follows. -/
theorem IsPath.splitTail_eq (h : IsPath path) : splitTail path = (path, none, none) := by
  have hall {d : Char} (hd : ∀ c ∈ path, c ≠ d) : splitAfter d path = (path, none) := by
    have hnone : path.dropWhile (· ≠ d) = [] :=
      List.dropWhile_eq_nil_iff.mpr fun c hc => decide_eq_true (hd c hc)
    rw [splitAfter, hnone]
  rw [splitTail, hall fun c hc => (h.plain c hc).2.2]
  simp only
  rw [hall fun c hc => (h.plain c hc).2.1]

namespace Site

variable (site : Site)

/-- The characters of the address. -/
def chars : List Char := site.scheme ++ "://".toList ++ site.authority

/-- The scheme in small letters. -/
def small : String := String.ofList (site.scheme.map Char.toLower)

/-- No mark of an address stands in the host and the port. -/
theorem ne_marks {c : Char} (hc : c ∈ site.authority) :
    c ≠ '/' ∧ c ≠ '\\' ∧ c ≠ '?' ∧ c ≠ '#' ∧ c ≠ '@' := by
  simpa using (site.plain c hc).2

/-- An address with a path behind it ends as the path does. -/
theorem getLast?_append (h : path.getLast? ≠ some '/') :
    (site.chars ++ path).getLast? ≠ some '/' := by
  intro hlast
  rw [List.getLast?_append] at hlast
  cases hpath : path.getLast? with
  | some c => exact h (by simpa [hpath] using hlast)
  | none =>
    have hauthority : site.authority.getLast? = some '/' := by
      rw [hpath, Option.none_or, chars, List.getLast?_append] at hlast
      rcases hend : site.authority.getLast? with _ | c
      · exact absurd (List.getLast?_eq_none_iff.mp hend) site.filled
      · simpa [hend] using hlast
    exact (site.ne_marks (List.mem_of_getLast? hauthority)).1 rfl

theorem small_eq : site.small = "http" ∨ site.small = "https" := by
  simpa [small] using site.web

theorem schemeKind_small : schemeKind site.small = .web := by
  have hweb : ∀ scheme ∈ ["http", "https"], schemeKind scheme = .web := by decide
  exact hweb _ site.web

theorem isAlpha_of_mem_scheme : ∀ c ∈ site.scheme, c.isAlpha = true := by
  have hsmall : ∀ word ∈ ["http", "https"], ∀ d ∈ word.toList, d.isAlpha = true := by simp
  intro c hc
  refine Text.isAlpha_of_toLower (hsmall _ site.web _ ?_)
  rw [String.toList_ofList]
  exact List.mem_map_of_mem hc

theorem scheme_ne_nil : site.scheme ≠ [] := by
  intro hnil
  have hweb := site.web
  rw [hnil] at hweb
  exact absurd hweb (by decide)

theorem splitUser_authority : splitUser site.authority = none := by
  have hat : ∀ c ∈ site.authority.reverse, decide (c ≠ '@') = true := by
    intro c hc
    simp [site.ne_marks (List.mem_reverse.mp hc)]
  rw [splitUser, List.dropWhile_eq_nil_iff.mpr hat]

theorem not_endsAuthority : ∀ c ∈ site.authority, (!endsAuthority .web c) = true := by
  intro c hc
  simp [endsAuthority, site.ne_marks hc]

/-- What follows the host and the port matters to them only where there is a user. -/
theorem parseAuthority_rest (rest : List Char) :
    parseAuthority site.small site.authority rest =
      parseAuthority site.small site.authority [] := by
  unfold parseAuthority
  simp [site.splitUser_authority]

/-- What is read of the host and the port: no user, and nothing is left of them. -/
theorem authority_of_ok {a : Authority}
    (h : parseAuthority site.small site.authority [] = .ok a) :
    a.username = "" ∧ a.password = none ∧ a.host.isSome = true ∧ a.left = [] := by
  have hleft : (splitPort site.authority false).2.dropWhile (· ≠ '\\') = [] := by
    refine List.dropWhile_eq_nil_iff.mpr fun c hc => ?_
    simp [site.ne_marks (mem_of_mem_splitPort hc)]
  unfold parseAuthority at h
  simp only [site.splitUser_authority, site.schemeKind_small, Option.getD_none, Option.isSome_none,
    Bool.false_eq_true, false_and, if_false, bind_eq_ok_iff] at h
  obtain ⟨host, hhost, h⟩ := h
  obtain ⟨host, rfl⟩ := Option.isSome_iff_exists.mp (isSome_of_parseHost hhost)
  simp only [Option.isNone_some, Bool.false_eq_true, false_and, if_false, bind_eq_ok_iff] at h
  obtain ⟨port, -, h⟩ := h
  obtain rfl := Except.ok.inj h
  exact ⟨rfl, rfl, rfl, hleft⟩

/-- Behind the scheme and two slashes, the host is read, and then the path. -/
theorem parse_chars (hpath : IsPath path) :
    parse (String.ofList (site.chars ++ path)) =
      parseWithHost site.small (site.authority ++ path) := by
  have hletters := site.isAlpha_of_mem_scheme
  have hvisible : ∀ c ∈ site.chars ++ path, 0x20 < c.toNat := by
    have hslashes : ∀ c ∈ "://".toList, 0x20 < c.toNat := by simp
    intro c hc
    simp only [chars, List.mem_append] at hc
    rcases hc with ((hc | hc) | hc) | hc
    · have hletter := Text.isAlpha_iff.mp (hletters c hc)
      omega
    · exact hslashes c hc
    · exact (site.plain c hc).1
    · exact (hpath.plain c hc).1
  have hshape : site.chars ++ path =
      site.scheme ++ ':' :: ("//".toList ++ (site.authority ++ path)) := by
    simp [chars]
  have hhost : ("//".toList ++ (site.authority ++ path)).dropWhile (fun c => c = '/' || c = '\\') =
      site.authority ++ path := by
    obtain ⟨c, cs, hauthority⟩ := List.exists_cons_of_ne_nil site.filled
    have hfirst := site.ne_marks (show c ∈ site.authority by simp [hauthority])
    rw [List.dropWhile_append_of_pos (by simp), hauthority]
    simp [hfirst]
  have hscheme := scheme?_of_letters site.scheme_ne_nil hletters
    ("//".toList ++ (site.authority ++ path))
  rw [parse, String.toList_ofList, significant_of_plain hvisible, hshape, hscheme]
  simp only
  rw [show schemeKind (String.ofList (site.scheme.map Char.toLower)) = .web from
    site.schemeKind_small]
  simp only
  rw [hhost]
  rfl

theorem parseWithHost_append (hpath : IsPath path) :
    parseWithHost site.small (site.authority ++ path) =
      (parseAuthority site.small site.authority []).map fun a =>
        { scheme := site.small, host := a.host, port := a.port, path := webPath path } := by
  have hends : path.takeWhile (fun c => !endsAuthority .web c) = [] ∧
      path.dropWhile (fun c => !endsAuthority .web c) = path := by
    rcases hpath.rooted with rfl | ⟨rest, rfl⟩
    · exact ⟨rfl, rfl⟩
    · simp [endsAuthority]
  unfold parseWithHost
  simp only [site.schemeKind_small, List.takeWhile_append_of_pos site.not_endsAuthority,
    List.dropWhile_append_of_pos site.not_endsAuthority, hends, List.append_nil]
  rw [site.parseAuthority_rest]
  cases ha : parseAuthority site.small site.authority [] with
  | error e => rfl
  | ok a =>
    obtain ⟨husername, hpassword, -, hleft⟩ := site.authority_of_ok ha
    simp only [ok_bind, Except.map]
    rw [hleft, List.nil_append, hpath.splitTail_eq, husername, hpassword]
    rfl

/-- The address of a site as it is read has a host, and neither a user nor a query. -/
theorem exists_origin : ∃ host port,
    parseAuthority site.small site.authority [] = .ok ⟨"", none, some host, port, []⟩ ∧
      site.origin = { scheme := site.small, host := some host, port, path := "/" } := by
  have hpath : IsPath [] := ⟨.inl rfl, by simp⟩
  have hread := site.parse_eq
  rw [show site.scheme ++ "://".toList ++ site.authority = site.chars ++ [] by simp [chars],
    site.parse_chars hpath, site.parseWithHost_append hpath] at hread
  cases ha : parseAuthority site.small site.authority [] with
  | error e =>
    rw [ha] at hread
    exact absurd hread (by simp [Except.map])
  | ok a =>
    obtain ⟨username, password, host, port, left⟩ := a
    obtain ⟨rfl, rfl, hhost, rfl⟩ := site.authority_of_ok ha
    obtain ⟨host, rfl⟩ := Option.isSome_iff_exists.mp hhost
    rw [ha] at hread
    exact ⟨host, port, rfl, (Except.ok.inj hread).symm⟩

/-- A path behind the address of a site is read as a path there. -/
theorem parse_append (hpath : IsPath path) :
    parse (String.ofList (site.chars ++ path)) =
      .ok { site.origin with path := webPath path } := by
  obtain ⟨host, port, hread, horigin⟩ := site.exists_origin
  rw [site.parse_chars hpath, site.parseWithHost_append hpath, hread, horigin]
  rfl

end Site

end Storyboard.Url
