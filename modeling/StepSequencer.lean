import StepSequencer.Main
import StepSequencer.Proofs.Assembly.Additions
import StepSequencer.Proofs.Assembly.AnyStore
import StepSequencer.Proofs.Assembly.Appending
import StepSequencer.Proofs.Assembly.Deduplication
import StepSequencer.Proofs.Assembly.FirstFault
import StepSequencer.Proofs.Assembly.HatLines
import StepSequencer.Proofs.Assembly.Insertions
import StepSequencer.Proofs.Assembly.Omission
import StepSequencer.Proofs.Assembly.Playback
import StepSequencer.Proofs.Assembly.Session
import StepSequencer.Proofs.Assembly.Validity
import StepSequencer.Proofs.Calendar.DayCount
import StepSequencer.Proofs.Calendar.HeaderDates
import StepSequencer.Proofs.Library.Holdings
import StepSequencer.Proofs.Song.Layouts
import StepSequencer.Proofs.Storage.Contents
import StepSequencer.Proofs.Storage.FolderFiles
import StepSequencer.Proofs.Library.FailedWrites
import StepSequencer.Proofs.Library.FreshSongs
import StepSequencer.Proofs.Command.Footprint
import StepSequencer.Proofs.Template.Pieces
import StepSequencer.Proofs.Template.SongPage
import StepSequencer.Proofs.Assembly.ChannelOutcome
import StepSequencer.Proofs.Template.FreeText
import StepSequencer.Proofs.Template.FolderOrder
import StepSequencer.Proofs.Json.Locality
import StepSequencer.Proofs.Json.Grammar
import StepSequencer.Proofs.Song.MemberOrder
import StepSequencer.Proofs.Song.Violations
import StepSequencer.Proofs.Song.UnknownMembers
import StepSequencer.Proofs.Song.ErrorPaths
import StepSequencer.Proofs.Tone.RoundTrip
import StepSequencer.Proofs.Storage.FileNames
