import RuleTree.Engine

/-!
Requests to an engine and to its store, one after the other.
-/

namespace RuleTree

/-- What can be asked of an engine and its store. -/
inductive Request
  | load (rule : Rule)
  | loadText (text : String)
  | loadBatch (rules : List Rule)
  | update (rule : Rule)
  | delete (id : String)
  | get (id : String)
  | fetch (id : String)
  | contains (id : String)
  | list
  | clear
  | statistics
  | config
  | review (source : Source)
  | reviewJson (rule : Json)
  | evaluate (source : Source) (record : Json)
  | evaluateAll (source : Source) (records : List Json)
  | evaluateData (source : Source) (data : Json)
  | explain (source : Source) (record : Json)
  | complaints

/-- What comes back if a request does not fail. -/
inductive Reply
  | done
  | id (id : String)
  | loaded (ids : List String)
  | rule (rule : Option Rule)
  | truth (value : Bool)
  | listed (ids : List String)
  | statistics (rules references : Nat)
  | config (config : Engine.Config)
  | review (review : Review)
  | verdict (verdict : Verdict)
  | report (report : Report)
  | complaints (complaints : List Complaint)

namespace Engine

/-- Puts the store that comes out of an operation in place, if it did not fail. -/
def storing {α : Type} (engine : Engine) (reply : α → Reply) :
    Except Failure (α × Store) → Except Failure Reply × Engine
  | .ok (a, store) => (.ok (reply a), { engine with store })
  | .error e => (.error e, engine)

def replying {α : Type} (reply : α → Reply) :
    Except Failure α × Engine → Except Failure Reply × Engine
  | (outcome, engine) => (outcome.map reply, engine)

def perform (engine : Engine) (now : Time) : Request → Except Failure Reply × Engine
  | .load rule =>
    engine.storing (fun () => .done) ((engine.store.load now rule).map ((), ·))
  | .loadText text => engine.storing .id (engine.store.loadText now text)
  | .loadBatch rules => engine.storing .loaded (.ok (engine.store.loadBatch now rules))
  | .update rule =>
    engine.storing (fun () => .done) ((engine.store.update now rule).map ((), ·))
  | .delete id => engine.storing (fun () => .done) ((engine.store.delete id).map ((), ·))
  | .get id => (.ok (.rule (engine.store.get? id)), engine)
  | .fetch id => replying (fun rule => .rule (some rule)) (engine.fetch id)
  | .contains id => (.ok (.truth (engine.store.contains id)), engine)
  | .list => (.ok (.listed engine.store.ids), engine)
  | .clear => (.ok .done, { engine with store := .empty })
  | .statistics => (.ok (.statistics engine.store.size engine.store.referenceCount), engine)
  | .config => (.ok (.config engine.config), engine)
  | .review source => replying .review (engine.review source)
  | .reviewJson rule => replying .review (engine.reviewJson rule)
  | .evaluate source record =>
    replying (fun v => .verdict (.single v)) (engine.evaluate source record)
  | .evaluateAll source records =>
    replying (fun vs => .verdict (.batch vs)) (engine.evaluateAll source records)
  | .evaluateData source data => replying .verdict (engine.evaluateData source data)
  | .explain source record => replying .report (engine.explain source record)
  | .complaints => (.ok (.complaints engine.recorded), engine)

def performAll (engine : Engine) (now : Time) :
    List Request → List (Except Failure Reply) × Engine
  | [] => ([], engine)
  | request :: rest =>
    let (reply, engine) := engine.perform now request
    let (replies, engine) := engine.performAll now rest
    (reply :: replies, engine)

end Engine

end RuleTree
