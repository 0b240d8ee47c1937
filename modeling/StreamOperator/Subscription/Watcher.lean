import StreamOperator.Error
import StreamOperator.Subscription.Tracker

/-!
# Watchers

A watcher asks for a list of the resources and then for the changes since. When its version has
expired, or it has none to go on from, it starts again with a list; after any other failure it asks
again. What it does is a list of signals, given the replies in their order.
-/

set_option autoImplicit false

namespace StreamOperator

/-- A line of a stream of changes. -/
inductive WatchLine where
  | event (type : String) (content : Json)
  | error (code : Nat)

/-- A mark of how far a stream of changes has come. -/
structure Bookmark where
  resourceVersion : String
  annotations : Dictionary String

namespace Bookmark

def record : Record Bookmark :=
  (Record.const Bookmark.mk)
    |>.and (.required "resourceVersion" Decode.text)
    |>.and (.defaulted "annotations" (Decode.dictionary Decode.text) .empty)

/-- A bookmark has to name its type. -/
def decode : Decoder Bookmark :=
  Record.object "struct Bookmark"
    ((Record.const fun (_ _ : String) (b : Bookmark) => b)
      |>.and (.required "apiVersion" Decode.text)
      |>.and (.required "kind" Decode.text)
      |>.and (.required "metadata" (Record.struct "BookmarkMeta" record)))

end Bookmark

inductive WatchReply where
  | list (items : List Json) (version : String)
  | stream (lines : List WatchLine)
  | error (code : Nat)
  | refused (reason : String)

/-- What a watcher does. -/
inductive Signal (α : Type) where
  /-- It asks for a list, or for the changes since. -/
  | ask (watching : Bool)
  | change (c : Change α)
  /-- It failed, with the code of a refusal if there was one. -/
  | failed (code : Option Nat)

/-- What a watcher goes on with. -/
inductive WatchStage where
  | listing
  | watching
  deriving DecidableEq, Repr

namespace Watcher

variable {α : Type}

/-- What the change of a resource comes to. One without a version gives nothing to go on from. -/
def changed (metadata : α → Metadata) (report : α → Change α) (resource : α) :
    List (Signal α) × WatchStage :=
  if (metadata resource).resourceVersion.getD "" = "" then ([.failed none], .listing)
  else ([.change (report resource)], .watching)

/-- What a failure that the server reports comes to. -/
def reported (code : Nat) : List (Signal α) × WatchStage :=
  ([.failed (some code)], if code = 410 then .listing else .watching)

/-- What a line comes to; no change for a bookmark. A line that cannot be read is a failure. -/
def line (decode : Decoder α) (metadata : α → Metadata) : WatchLine → List (Signal α) × WatchStage
  | .error code => reported code
  | .event type content =>
    let read : Except DecodeError (List (Signal α) × WatchStage) :=
      match type with
      | "ADDED" | "MODIFIED" => changed metadata .applied <$> decode content
      | "DELETED" => changed metadata .deleted <$> decode content
      | "BOOKMARK" => (fun _ => ([], .watching)) <$> Bookmark.decode content
      | "ERROR" => (fun status => reported status.code) <$> ApiStatus.decode content
      | type =>
        .error (.unknownVariant type ["ADDED", "MODIFIED", "DELETED", "BOOKMARK", "ERROR"])
    match read with
    | .ok result => result
    | .error _ => ([.failed none], .watching)

/-- The signals of a stream of changes, up to the line that ends it. -/
def lines (decode : Decoder α) (metadata : α → Metadata) :
    List WatchLine → List (Signal α) × WatchStage
  | [] => ([], .watching)
  | next :: rest =>
    match line decode metadata next with
    | (signals, .listing) => (signals, .listing)
    | (signals, .watching) =>
      let (others, stage) := lines decode metadata rest
      (signals ++ others, stage)

/-- What the reply to a request for a list comes to. -/
def listReply (decode : Decoder α) : WatchReply → List (Signal α) × WatchStage
  | .list items version =>
    match Decode.items decode items with
    | .error _ => ([.failed none], .listing)
    | .ok resources =>
      if version = "" then ([.failed none], .listing)
      else (resources.map (fun r => .change (.listed r)) ++ [.change .listEnd], .watching)
  | .stream _ => ([.failed none], .listing)
  | .error code => ([.failed (some code)], .listing)
  | .refused _ => ([.failed none], .listing)

/-- What the reply to a request for changes comes to. -/
def watchReply (decode : Decoder α) (metadata : α → Metadata) :
    WatchReply → List (Signal α) × WatchStage
  | .stream changes => lines decode metadata changes
  | .list _ _ => ([.failed none], .watching)
  | .error code => ([.failed (some code)], .watching)
  | .refused _ => ([.failed none], .watching)

/-- The signals up to a reply. -/
def opening : WatchStage → List (Signal α)
  | .listing => [.change .listBegin, .ask false]
  | .watching => [.ask true]

/-- All signals, until a request is left without a reply. -/
def signals (decode : Decoder α) (metadata : α → Metadata) :
    WatchStage → List WatchReply → List (Signal α)
  | stage, [] => opening stage
  | .listing, reply :: rest =>
    let (caused, stage) := listReply decode reply
    opening .listing ++ caused ++ signals decode metadata stage rest
  | .watching, reply :: rest =>
    let (caused, stage) := watchReply decode metadata reply
    opening .watching ++ caused ++ signals decode metadata stage rest

end Watcher

end StreamOperator
