import Storyboard.Json.Fault
import Storyboard.Request
import Storyboard.Wire.Request
import Storyboard.Wire.Timeline

/-!
# Schemas

A schema tells the readers of an interface what the wire form of a type looks like, in the notation
of JSON Schema (draft 7). Every type that is sent or received has a description here: its name, a
note for readers, and its shape. A schema shows one type in full and refers to all others by name;
the definitions of those that are reached stand beside it.
-/

namespace Storyboard.Schema

/-- The shape of a single value. -/
inductive Shape
  /-- A string. -/
  | text
  /-- A time stamp. -/
  | stamp
  /-- A number. -/
  | number
  /-- A natural number of 32 bits. -/
  | count
  /-- A value of the type with the given name. -/
  | named (name : String)
  /-- A list of values. -/
  | listOf (item : Shape)
  /-- A value or `null`. -/
  | optional (shape : Shape)
deriving Repr

/-- A member of an object. -/
structure Field where
  /-- Its name. -/
  name : String
  /-- The shape of its value. -/
  shape : Shape
  /-- A note for readers. -/
  note : Option String := none
  /-- Its value if it is left out. -/
  usual : Option Json := none

/-- The shape of a type. -/
inductive Body
  /-- A string. -/
  | text
  /-- A number. -/
  | number
  /-- One of a few words. -/
  | words (words : List String)
  /-- One of a few words, each with a note. -/
  | notedWords (words : List (String × String))
  /-- An object. -/
  | record (fields : List Field)
  /-- One of a few objects, told apart by their types: the type, a note, and the other members. -/
  | tagged (alternatives : List (String × String × List Field))

/-- The description of a type. -/
structure Description where
  /-- Its name. -/
  name : String
  /-- A note for readers. -/
  note : Option String
  /-- Its shape. -/
  body : Body

/-! ## Writing -/

/-- The members of an object, sorted by name. -/
def sorted (members : List (String × Json)) : Json :=
  .object (members.foldl (fun done m => Json.insertMember m.1 m.2 done) [])

/-- A schema with one type of JSON. -/
def typed (name : String) (more : List (String × Json)) : List (String × Json) :=
  ("type", .text name) :: more

/-- A reference to the definition of a type. -/
def reference (name : String) : Json := .object [("$ref", .text ("#/definitions/" ++ name))]

/-- The members of the schema of a shape; `noted` says that a note will stand beside them. -/
def Shape.members (noted : Bool) : Shape → List (String × Json)
  | .text => typed "string" []
  | .stamp => typed "string" [("format", .text "date-time")]
  | .number => typed "number" [("format", .text "double")]
  | .count => typed "integer" [("format", .text "uint32"), ("minimum", .double .zero)]
  | .named name =>
    if noted then [("allOf", .list [reference name])]
    else [("$ref", .text ("#/definitions/" ++ name))]
  | .listOf item => typed "array" [("items", sorted (item.members false))]
  | .optional (.named name) =>
    [("anyOf", .list [reference name, .object (typed "null" [])])]
  | .optional shape =>
    (shape.members noted).map fun m =>
      if m.1 = "type" then ("type", .list [m.2, .text "null"]) else m

/-- A note as a member. -/
def noteMember : Option String → List (String × Json)
  | some note => [("description", .text note)]
  | none => []

/-- The schema of a member. -/
def Field.schema (f : Field) : Json :=
  sorted (f.shape.members (f.note.isSome || f.usual.isSome) ++ noteMember f.note ++
    (match f.usual with
      | some v => [("default", v)]
      | none => []))

/-- Whether a member must be there. -/
def Field.isRequired (f : Field) : Bool :=
  f.usual.isNone && (match f.shape with
    | .optional _ => false
    | _ => true)

/-- The words of a list as a schema. -/
def wordMembers (words : List String) : List (String × Json) :=
  typed "string" [("enum", .list (words.map .text))]

/-- The members of the schema of an object; `tag` is the word of its type, if it has one. -/
def recordMembers (tag : Option String) (fields : List Field) : List (String × Json) :=
  let tagMember := match tag with
    | some word => [("type", sorted (wordMembers [word]))]
    | none => []
  let tagName := match tag with
    | some _ => ["type"]
    | none => []
  let names := (fields.filter Field.isRequired).map (·.name) ++ tagName
  let required :=
    names.foldl (fun done n => Json.insertMember n () done) ([] : List (String × Unit))
  typed "object"
    ([("properties", sorted (fields.map (fun f => (f.name, f.schema)) ++ tagMember))] ++
      (if required = [] then [] else [("required", .list (required.map fun m => .text m.1))]))

/-- The members of the schema of a type. -/
def Description.members (d : Description) : List (String × Json) :=
  noteMember d.note ++ match d.body with
    | .text => typed "string" []
    | .number => typed "number" [("format", .text "double")]
    | .words words => wordMembers words
    | .notedWords words =>
      [("oneOf", .list (words.map fun (word, note) =>
        sorted (noteMember (some note) ++ wordMembers [word])))]
    | .record fields => recordMembers none fields
    | .tagged alternatives =>
      [("oneOf", .list (alternatives.map fun (word, note, fields) =>
        sorted (noteMember (some note) ++ recordMembers (some word) fields)))]

/-! ## References -/

/-- The types that a shape refers to. -/
def Shape.names : Shape → List String
  | .named name => [name]
  | .listOf shape | .optional shape => shape.names
  | _ => []

/-- The types that a description refers to. -/
def Description.names (d : Description) : List String :=
  match d.body with
  | .record fields => fields.flatMap (·.shape.names)
  | .tagged alternatives => alternatives.flatMap fun a => a.2.2.flatMap (·.shape.names)
  | _ => []

/-- The descriptions that are reached from a list of names in at most `steps` steps. -/
def reached (known : List Description) : (steps : Nat) → List String → List Description
  | 0, _ => []
  | steps + 1, names =>
    let here := known.filter fun d => names.contains d.name
    if here.isEmpty then [] else here ++ reached known steps (here.flatMap (·.names))

/-- The schema of a type, given the descriptions of all types that it may refer to. -/
def Description.schema (known : List Description) (d : Description) : Json :=
  let definitions := (reached known known.length d.names).map fun r => (r.name, sorted r.members)
  sorted (d.members ++
    [("$schema", .text "http://json-schema.org/draft-07/schema#"), ("title", .text d.name)] ++
    (if definitions.isEmpty then [] else [("definitions", sorted definitions)]))

/-! ## Descriptions -/

/-- A member without a note. -/
def plain (name : String) (shape : Shape) : Field := { name, shape }

/-- A member with a note. -/
def noted (name note : String) (shape : Shape) : Field := { name, shape, note := some note }

/-- A type whose values have fixed words. -/
def ofWords (α : Type) [Vocabulary α] (name note : String) : Description :=
  ⟨name, some note, .words (Vocabulary.words α)⟩

/-- An optional string. -/
def optionalText : Shape := .optional .text

/-- An optional number. -/
def optionalNumber : Shape := .optional .number

/-- An optional value of a named type. -/
def optionalNamed (name : String) : Shape := .optional (.named name)

/-- The fields of a request for a single title card. -/
def titleFields : List Field :=
  [noted "title" "Required" optionalText, plain "subtitle" optionalText,
   plain "backgroundColor" optionalText, plain "backgroundImage" optionalText,
   plain "voiceRef" optionalText, plain "musicRef" optionalText,
   plain "musicVolume" optionalNumber, plain "voiceVolume" optionalNumber,
   noted "duration" "Seconds, default 15" optionalNumber, plain "aspectRatio" optionalText,
   plain "format" optionalText, plain "resolution" optionalText, plain "quality" optionalText,
   plain "textStyle" (optionalNamed "TextStyle"), plain "titlePosition" (optionalNamed "Position"),
   plain "effect" (optionalNamed "Effect")]

/-- The fields of a request for a sequence of scenes. -/
def scenesFields : List Field :=
  [{ name := "scenes", shape := .listOf (.named "SceneInput"), note := some "Required, non-empty"
     usual := some (.list []) },
   plain "musicRef" optionalText, plain "voiceRef" optionalText,
   plain "musicVolume" optionalNumber, plain "voiceVolume" optionalNumber,
   plain "aspectRatio" optionalText, plain "format" optionalText, plain "resolution" optionalText,
   plain "quality" optionalText,
   noted "transitionType" "Transition between interior scenes, default `fade`"
     (optionalNamed "Transition")]

/-- The fields of a request for a card. -/
def cardFields : List Field :=
  [plain "kind" (.named "IntroOutroKind"), plain "title" optionalText,
   plain "subtitle" optionalText,
   noted "channelName" "Used as the title when `title` is absent" optionalText,
   noted "tagline" "Used as the subtitle when `subtitle` is absent" optionalText,
   plain "logoRef" optionalText, plain "backgroundImage" optionalText,
   plain "backgroundColor" optionalText, plain "musicRef" optionalText,
   plain "voiceRef" optionalText, plain "musicVolume" optionalNumber,
   plain "voiceVolume" optionalNumber, noted "duration" "Seconds, default 5" optionalNumber,
   noted "fadeIn" "Seconds, default 0.5" optionalNumber,
   noted "fadeOut" "Seconds, default 1.0" optionalNumber, plain "aspectRatio" optionalText,
   plain "format" optionalText, plain "resolution" optionalText, plain "quality" optionalText,
   plain "textStyle" (optionalNamed "TextStyle"), plain "effect" (optionalNamed "Effect"),
   plain "transition" (optionalNamed "Transition")]

/-- The types for the look of a video. -/
def styleTypes : List Description :=
  [ofWords Transition "Transition" "Clip transition applied on entry or exit.",
   ofWords Effect "Effect" "Motion effect applied to a clip for its whole length.",
   ofWords TextStyle "TextStyle" "Preset text treatment for title assets.",
   ofWords Position "Position" "Anchor position of a clip within the frame.",
   ofWords Fit "Fit" "How an image asset is fitted to the output frame."]

/-- The types for the output. -/
def outputTypes : List Description :=
  [⟨"AspectRatio", none, .text⟩,
   ofWords Format "Format" "Container format of the rendered file.",
   ofWords ResolutionTier "ResolutionTier" "Resolution tier requested from the engine.",
   ofWords Quality "Quality" "Encoder quality preset.",
   ⟨"Size", some "Pixel dimensions of the output frame.",
    .record [plain "width" .count, plain "height" .count]⟩,
   ⟨"OutputSpec", some "Concrete rendering parameters.",
    .record
      [plain "format" (.named "Format"), plain "resolution" (.named "ResolutionTier"),
       plain "aspectRatio" (.named "AspectRatio"), plain "size" (.named "Size"),
       plain "fps" .count, plain "quality" (.named "Quality")]⟩]

/-- The types of requests. -/
def requestTypes : List Description :=
  [⟨"SceneInput", some "One scene as supplied by the caller.",
    .record
      [plain "title" optionalText, plain "subtitle" optionalText,
       plain "backgroundImage" optionalText, plain "backgroundColor" optionalText,
       noted "duration" "Seconds" optionalNumber, plain "textStyle" (optionalNamed "TextStyle"),
       plain "titlePosition" (optionalNamed "Position"), plain "effect" (optionalNamed "Effect"),
       noted "transitionIn" "Overrides the request-wide transition for this scene's entry"
         (optionalNamed "Transition"),
       noted "transitionOut" "Overrides the request-wide transition for this scene's exit"
         (optionalNamed "Transition")]⟩,
   ⟨"SingleTitleRequest", some "A single title card over a background.", .record titleFields⟩,
   ⟨"ScenesRequest", some "An ordered sequence of scenes.", .record scenesFields⟩,
   ofWords CardKind "IntroOutroKind" "Intro or outro card.",
   ⟨"IntroOutroRequest", some "Channel intro or outro card with optional logo.",
    .record cardFields⟩,
   ⟨"VideoRequest", some "Any of the three request shapes, tagged by `type`.",
    .tagged
      [("singleTitle", "A single title card over a background.", titleFields),
       ("scenes", "An ordered sequence of scenes.", scenesFields),
       ("introOutro", "Channel intro or outro card with optional logo.", cardFields)]⟩]

/-- The types of timelines. -/
def timelineTypes : List Description :=
  [⟨"Seconds", none, .number⟩,
   ⟨"Scene", some ("One visual beat: a background with optional title and subtitle.\n\n" ++
      "Every field is resolved; a `Scene` only exists after request normalization has " ++
      "validated the caller input and applied defaults."),
    .record
      [plain "title" optionalText, plain "subtitle" optionalText,
       plain "backgroundImage" optionalText, plain "backgroundColor" .text,
       noted "duration" "Always > 0" (.named "Seconds"), plain "textStyle" (.named "TextStyle"),
       plain "titlePosition" (.named "Position"), plain "effect" (optionalNamed "Effect"),
       plain "transitionIn" (.named "Transition"), plain "transitionOut" (.named "Transition"),
       noted "textTransition" ("When set, title and subtitle clips enter and exit with this " ++
         "instead of the scene transitions") (optionalNamed "Transition"),
       noted "logo" "Logo overlay shown for the whole scene (intro/outro cards)" optionalText]⟩,
   ⟨"Asset", some "What a clip displays or plays.",
    .tagged
      [("image", "Remote image.", [plain "src" .text]),
       ("color", "Solid colour fill.", [plain "color" .text]),
       ("title", "Styled text.",
        [plain "text" .text, plain "style" (.named "TextStyle"), plain "color" optionalText,
         plain "position" (.named "Position")]),
       ("audio", "Remote audio file.", [plain "src" .text, plain "volume" .number])]⟩,
   ⟨"ClipTransition", some "Entry and exit transitions of a clip.",
    .record [plain "in" (optionalNamed "Transition"), plain "out" (optionalNamed "Transition")]⟩,
   ⟨"Clip", some "A single timed element on a track.",
    .record
      [plain "asset" (.named "Asset"), noted "start" "Absolute start offset" (.named "Seconds"),
       noted "length" "Visible/audible span, always > 0" (.named "Seconds"),
       plain "fit" (optionalNamed "Fit"), plain "effect" (optionalNamed "Effect"),
       plain "transition" (optionalNamed "ClipTransition"),
       plain "position" (optionalNamed "Position"), plain "scale" optionalNumber]⟩,
   ofWords TrackKind "TrackKind"
     "Layer a track belongs to. Local bookkeeping only; never sent to the engine.",
   ⟨"Track", some "Ordered, non-overlapping clips of one kind.",
    .record [plain "clips" (.listOf (.named "Clip"))]⟩,
   ofWords SoundtrackEffect "SoundtrackEffect" "Fade envelope of the background music.",
   ⟨"Soundtrack", some "Background music spanning the whole timeline.",
    .record
      [plain "src" .text, plain "volume" .number,
       plain "effect" (.named "SoundtrackEffect")]⟩,
   ⟨"Timeline", some "Complete compiled structure submitted to the render engine.",
    .record
      [noted "background" "Colour behind every track" .text,
       plain "tracks" (.listOf (.named "Track")),
       plain "soundtrack" (optionalNamed "Soundtrack")]⟩]

/-- The types of jobs. -/
def jobTypes : List Description :=
  [⟨"String", none, .text⟩,
   ⟨"RenderStatus", some ("Render job status.\n\n" ++
      "`Queued -> Rendering -> Done`, and any non-terminal state may move to `Failed`. " ++
      "There is no cancellation."),
    .notedWords
      [("queued", "Accepted by the engine, not started"),
       ("rendering", "Engine is fetching assets, rendering or saving"),
       ("done", "Output is available"),
       ("failed", "Engine reported an error")]⟩,
   ⟨"RenderJob", some "Snapshot of a render job as reported by the engine.",
    .record
      [plain "id" .text, plain "status" (.named "RenderStatus"),
       noted "url" "Rendered file, present once done" optionalText,
       plain "poster" optionalText, plain "thumbnail" optionalText,
       noted "error" "Engine error message, present once failed" optionalText,
       plain "created_at" .stamp, plain "updated_at" .stamp]⟩]

/-- All types that are described. -/
def known : List Description :=
  styleTypes ++ outputTypes ++ requestTypes ++ timelineTypes ++ jobTypes

/-- The name under which a type is described: times go by their unit, and the name of a job is a
string. -/
def describedName (type : String) : String :=
  if type = "Millis" then "Seconds" else if type = "JobId" then "String" else type

/-- The schema of the type with the given name. -/
def ofType? (type : String) : Option Json :=
  (known.find? (·.name = describedName type)).map (Description.schema known)

/-- The schema of a request of any form. -/
def videoRequest : Json := (ofType? "VideoRequest").getD .null

end Storyboard.Schema
