import Matchmaking.Intake.Api
import Matchmaking.Proofs.Json.Render

/-!
# Refusals are explained

A refusal is a problem document: its status stands in front of it and in it, with what the status
means, and a code tells programs why.
-/

namespace Matchmaking.Intake

open Json

/-- What the members of a problem document tell. -/
structure Details (ms : List Member) (number : UInt16) (title code detail : String) : Prop where
  names : ms.map Member.name = ["type", "title", "status", "detail", "code"]
  type : Tells ms "type" Reader.text ("about:blank#" ++ code)
  title : Tells ms "title" Reader.text title
  status : Tells ms "status" Reader.uint16 number
  detail : Tells ms "detail" Reader.text detail
  code : Tells ms "code" Reader.text code

/-- An answer is a problem document, marked as one. -/
structure ApiResponse.Explains (a : ApiResponse) (number : UInt16) (title code : String) :
    Prop where
  status : a.status.code = number.toNat
  mediaType : a.mediaType = some "application/problem+json"
  allowed : a.allowed = none
  body : ∃ (o : ObjectText) (detail : String), Text.bytes a.body = o.bytes ∧
    Details o.members number title code detail

namespace Problem

variable {number : UInt16}

private def written (p : Problem) (number : UInt16) : List (String × Value) := [
  ("type", .text ("about:blank#" ++ p.code)),
  ("title", .text p.title),
  ("status", .integer number.toNat),
  ("detail", .text p.detail),
  ("code", .text p.code)]

private theorem toJson_eq (p : Problem) (h : p.status.code = number.toNat) :
    p.toJson = .object (p.written number) := by
  rw [toJson, h]
  rfl

private theorem written_values (p : Problem) (number : UInt16) :
    ∀ m ∈ p.written number, IsValue m.2.bytes := by
  simp only [written, List.forall_mem_cons]
  exact ⟨(text_faithful _).isValue, (text_faithful _).isValue, (uint16_faithful _).isValue,
    (text_faithful _).isValue, (text_faithful _).isValue, by simp⟩

private theorem details_written (p : Problem) (number : UInt16) :
    Details ((p.written number).map Value.member) number p.title p.code p.detail where
  names := rfl
  type := (text_faithful _).tells rfl
  title := (text_faithful _).tells rfl
  status := (uint16_faithful _).tells rfl
  detail := (text_faithful _).tells rfl
  code := (text_faithful _).tells rfl

theorem explains (p : Problem) (h : p.status.code = number.toNat) :
    (ApiResponse.problem p).Explains number p.title p.code where
  status := h
  mediaType := rfl
  allowed := rfl
  body := by
    refine ⟨objectText (p.written number) (p.written_values number), p.detail, ?_,
      p.details_written number⟩
    rw [bytes_objectText, ← p.toJson_eq h]
    rfl

end Problem

end Matchmaking.Intake
