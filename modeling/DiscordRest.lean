import DiscordRest.Handle
import DiscordRest.Main
import DiscordRest.Paging.Memory
import DiscordRest.Record.Resume
import DiscordRest.Proofs.Paging.Exchange
import DiscordRest.Proofs.Paging.Course
import DiscordRest.Proofs.Paging.Consumption
import DiscordRest.Proofs.Paging.Delivery
import DiscordRest.Proofs.Paging.Laziness
import DiscordRest.Proofs.Paging.ServedPage
import DiscordRest.Proofs.Paging.ChangingData
import DiscordRest.Proofs.Text.Ascii
import DiscordRest.Proofs.Text.Numeral
import DiscordRest.Proofs.Url.Domain
import DiscordRest.Proofs.Text.Utf8
import DiscordRest.Proofs.Url.Address
import DiscordRest.Proofs.Url.Host
import DiscordRest.Proofs.Url.Authority
import DiscordRest.Proofs.Url.Below
import DiscordRest.Proofs.Paging.Simulation
import DiscordRest.Proofs.Http.Target
import DiscordRest.Proofs.Http.Answer
import DiscordRest.Proofs.Json.Whole
import DiscordRest.Proofs.Listing
import DiscordRest.Proofs.Paging.Termination
import DiscordRest.Proofs.Paging.Resumption
import DiscordRest.Proofs.Paging.Family
import DiscordRest.Proofs.Keyed
import DiscordRest.Proofs.Snowflake
import DiscordRest.Proofs.Json.Layout
import DiscordRest.Proofs.Json.Tidy
import DiscordRest.Proofs.Record.Survival
import DiscordRest.Proofs.Http.Traffic
import DiscordRest.Proofs.Paging.Stream
import DiscordRest.Proofs.Command.Listing
import DiscordRest.Proofs.Command.Report
import DiscordRest.Proofs.Command.Limit
import DiscordRest.Proofs.Http.Attempt
import DiscordRest.Proofs.Http.Credentials
import DiscordRest.Proofs.Command.Secrecy
import DiscordRest.Proofs.Form
import DiscordRest.Proofs.Settings
import DiscordRest.Proofs.Signature
import DiscordRest.Proofs.Url.Shape
import DiscordRest.Proofs.Url.Path
import DiscordRest.Proofs.Url.Endpoint
import DiscordRest.Proofs.Http.Endpoint
import DiscordRest.Proofs.Paging.History
import DiscordRest.Proofs.Messages
import DiscordRest.Proofs.Command.Lines
import DiscordRest.Proofs.Json.Scalars
import DiscordRest.Proofs.Json.Reading
import DiscordRest.Proofs.Json.Agreement
import DiscordRest.Proofs.Json.Return
import DiscordRest.Proofs.Record.RoundTrip
import DiscordRest.Proofs.Json.Generic
import DiscordRest.Proofs.Json.Schema
import DiscordRest.Proofs.Json.Snowflake
import DiscordRest.Proofs.Record.Schema
import DiscordRest.Proofs.Snowflake.Grammar
import DiscordRest.Proofs.Paging.Mirror
import DiscordRest.Proofs.Snowflake.Minting
import DiscordRest.Proofs.Json.MemberOrder
import DiscordRest.Proofs.Json.Refusal
import DiscordRest.Proofs.Record.Detour
import DiscordRest.Proofs.Recognition
import DiscordRest.Proofs.Url.Scheme
import DiscordRest.Proofs.Url.Respelling
import DiscordRest.Proofs.Http.Query
import DiscordRest.Proofs.Http.Lines
import DiscordRest.Proofs.Paging.Counters
import DiscordRest.Proofs.Json.TextMap
import DiscordRest.Proofs.Settings.Document
import DiscordRest.Proofs.Command.Values
import DiscordRest.Proofs.Command.Mentions
import DiscordRest.Proofs.Command.Scopes
import DiscordRest.Proofs.Command.Arguments
import DiscordRest.Proofs.Http.Single
import DiscordRest.Proofs.Paging.Sending
import DiscordRest.Proofs.Settings.Yaml
import DiscordRest.Proofs.Command.Precedence
