import ApiClient.Client.Session
import ApiClient.Proofs.Parameter.Style
import ApiClient.Proofs.Text.Pairs
import ApiClient.Proofs.Text.Percent
import ApiClient.Service.Emit
import ApiClient.Proofs.Parameter.QueryReading
import ApiClient.Proofs.Lists
import ApiClient.Proofs.Parameter.Substitution
import ApiClient.Proofs.Service.UniqueName
import ApiClient.Proofs.Client.ConfigScopes
import ApiClient.Proofs.Service.FunctionNames
import ApiClient.Proofs.Client.Envelope
import ApiClient.Proofs.Client.HandlerRuns
import ApiClient.Proofs.Request.FormReading
import ApiClient.Proofs.Client.BaseUrl
import ApiClient.Proofs.Client.ForeignNumbers
import ApiClient.Proofs.Parameter.PathStructure
import ApiClient.Proofs.Request.QueryArrival
import ApiClient.Proofs.Client.ErrorStatus
import ApiClient.Proofs.Client.BinaryData
import ApiClient.Proofs.Request.HeaderOverlay
import ApiClient.Proofs.Request.HeaderConversions
import ApiClient.Proofs.Client.Overrides
import ApiClient.Proofs.Service.ValidNames
import ApiClient.Proofs.Text.Quoted
import ApiClient.Proofs.Code.CallTokens
import ApiClient.Proofs.Service.EmittedModule
import ApiClient.Proofs.Service.AcceptedNames
import ApiClient.Proofs.Service.ModuleLayout
import ApiClient.Proofs.Service.PlannedCall
import ApiClient.Proofs.Client.Setters
import ApiClient.Proofs.Request.HeaderLists
import ApiClient.Proofs.Client.Content
import ApiClient.Proofs.Parameter.ArrayReading
import ApiClient.Proofs.Parameter.PathParts
import ApiClient.Proofs.Client.FailureValues
import ApiClient.Proofs.Client.SuccessReading
import ApiClient.Proofs.Parameter.QueryFaults
import ApiClient.Proofs.Parameter.SingleElement
import ApiClient.Proofs.Http.MediaType
import ApiClient.Proofs.Response.ContentType
import ApiClient.Proofs.Text.LetterCase
import ApiClient.Proofs.Service.Paragraphs
import ApiClient.Proofs.Code.DocComment
import ApiClient.Proofs.Service.DocumentationLines
import ApiClient.Proofs.Service.AppendedOperations
import ApiClient.Proofs.Service.SanitizedNames
