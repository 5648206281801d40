import CqlText.Binding.Stored
import CqlText.Proofs.Grammar
import CqlText.Proofs.Obtainable
import CqlText.Proofs.FirstFault
import CqlText.Proofs.Substitution
import CqlText.Schema.Alteration
import CqlText.Session
import CqlText.Proofs.MarkerSearch
import CqlText.Proofs.Composition
import CqlText.Proofs.Restoration
import CqlText.Proofs.OpenTail
import CqlText.Proofs.SurfaceRow
import CqlText.Proofs.Reparsing
import CqlText.Proofs.Unglued
import CqlText.Proofs.ClauseText
import CqlText.Proofs.ClosedEnd
import CqlText.Proofs.Extension
import CqlText.Proofs.MarkerReplacement
import CqlText.Proofs.OptionReport
import CqlText.Proofs.StoredBindings
import CqlText.Proofs.Cursor
import CqlText.Proofs.CursorInvariant
