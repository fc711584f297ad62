import QueryWorkload.Failure

set_option autoImplicit false

namespace QueryWorkload

def measurement : String := "intel"

namespace Metric

def catalogue : List String :=
  [
    "mongodb_asserts_msg",
    "mongodb_asserts_regular",
    "mongodb_asserts_rollovers",
    "mongodb_asserts_user",
    "mongodb_asserts_warning",
    "mongodb_connections_active",
    "mongodb_connections_available",
    "mongodb_connections_current",
    "mongodb_connections_total_created",
    "mongodb_cursor_open_no_timeout",
    "mongodb_cursor_open_pinned",
    "mongodb_cursor_open_total",
    "mongodb_cursor_timed_out",
    "mongodb_document_deleted",
    "mongodb_document_inserted",
    "mongodb_document_returned",
    "mongodb_document_updated",
    "mongodb_extra_info_page_faults",
    "mongodb_extra_info_system_time_us",
    "mongodb_extra_info_user_time_us",
    "mongodb_global_lock_active_clients_readers",
    "mongodb_global_lock_active_clients_total",
    "mongodb_global_lock_active_clients_writers",
    "mongodb_global_lock_current_queue_readers",
    "mongodb_global_lock_current_queue_total",
    "mongodb_global_lock_current_queue_writers",
    "mongodb_global_lock_total_time",
    "mongodb_mem_bits",
    "mongodb_mem_mapped",
    "mongodb_mem_mapped_with_journal",
    "mongodb_mem_resident",
    "mongodb_mem_virtual",
    "mongodb_metrics_commands_failed",
    "mongodb_metrics_commands_total",
    "mongodb_metrics_get_last_error_wtime_num",
    "mongodb_metrics_get_last_error_wtime_total_millis",
    "mongodb_metrics_get_last_error_wtimeouts",
    "mongodb_metrics_operation_scan_and_order",
    "mongodb_metrics_operation_write_conflicts",
    "mongodb_metrics_query_executor_scanned",
    "mongodb_metrics_query_executor_scanned_objects",
    "mongodb_metrics_record_moves",
    "mongodb_metrics_repl_apply_batches_num",
    "mongodb_metrics_repl_apply_batches_total_millis",
    "mongodb_metrics_repl_apply_ops",
    "mongodb_metrics_repl_buffer_count",
    "mongodb_metrics_repl_buffer_max_size_bytes",
    "mongodb_metrics_repl_buffer_size_bytes",
    "mongodb_metrics_repl_executor_pool_in_progress_count",
    "mongodb_metrics_repl_executor_queues_network_in_progress",
    "mongodb_metrics_repl_executor_queues_sleepers",
    "mongodb_metrics_repl_executor_unsignaled_events",
    "mongodb_metrics_repl_network_bytes",
    "mongodb_metrics_repl_network_getmores_num",
    "mongodb_metrics_repl_network_getmores_total_millis",
    "mongodb_metrics_repl_network_ops",
    "mongodb_metrics_repl_network_readers_created",
    "mongodb_metrics_repl_preload_docs_num",
    "mongodb_metrics_repl_preload_docs_total_millis",
    "mongodb_metrics_repl_preload_indexes_num",
    "mongodb_metrics_repl_preload_indexes_total_millis",
    "mongodb_metrics_ttl_deleted_documents",
    "mongodb_metrics_ttl_passes",
    "mongodb_network_bytes_in",
    "mongodb_network_bytes_out",
    "mongodb_network_num_requests",
    "mongodb_network_physical_bytes_in",
    "mongodb_network_physical_bytes_out",
    "mongodb_opcounters_command",
    "mongodb_opcounters_delete",
    "mongodb_opcounters_getmore",
    "mongodb_opcounters_insert",
    "mongodb_opcounters_query",
    "mongodb_opcounters_update",
    "mongodb_opcounters_repl_command",
    "mongodb_opcounters_repl_delete",
    "mongodb_opcounters_repl_getmore",
    "mongodb_opcounters_repl_insert",
    "mongodb_opcounters_repl_query",
    "mongodb_opcounters_repl_update",
    "mongodb_oplog_max_size_mb",
    "mongodb_oplog_size_mb",
    "mongodb_oplog_window_sec",
    "mongodb_repl_lag_sec",
    "mongodb_repl_members_healthy",
    "mongodb_repl_oplog_head_timestamp",
    "mongodb_repl_oplog_tail_timestamp",
    "mongodb_tcmalloc_current_allocated_bytes",
    "mongodb_tcmalloc_heap_size",
    "mongodb_tcmalloc_pageheap_free_bytes",
    "mongodb_tcmalloc_pageheap_unmapped_bytes",
    "mongodb_tcmalloc_thread_cache_free_bytes",
    "mongodb_tcmalloc_total_free_bytes",
    "mongodb_ticket_read_available",
    "mongodb_ticket_read_out",
    "mongodb_ticket_read_total",
    "mongodb_ticket_write_available",
    "mongodb_ticket_write_out",
    "mongodb_ticket_write_total",
    "mongodb_wt_block_manager_blocks_read",
    "mongodb_wt_block_manager_blocks_written",
    "mongodb_wt_block_manager_bytes_read",
    "mongodb_wt_block_manager_bytes_written",
    "mongodb_wt_cache_bytes_currently_in_cache",
    "mongodb_wt_cache_bytes_read_into_cache",
    "mongodb_wt_cache_bytes_written_from_cache",
    "mongodb_wt_cache_maximum_bytes_configured",
    "mongodb_wt_cache_modified_pages_evicted",
    "mongodb_wt_cache_pages_read_into_cache",
    "mongodb_wt_cache_pages_requested_from_cache",
    "mongodb_wt_cache_pages_written_from_cache",
    "mongodb_wt_cache_tracked_dirty_bytes",
    "mongodb_wt_cache_unmodified_pages_evicted",
    "mongodb_wt_concurrent_transactions_read_available",
    "mongodb_wt_concurrent_transactions_write_available",
    "mongodb_wt_connection_files_currently_open",
    "mongodb_wt_connection_memory_allocations",
    "mongodb_wt_connection_memory_frees",
    "mongodb_wt_cursor_insert_calls",
    "mongodb_wt_cursor_remove_calls",
    "mongodb_wt_cursor_search_calls",
    "mongodb_wt_cursor_update_calls",
    "mongodb_wt_log_bytes_written",
    "mongodb_wt_log_log_sync_operations",
    "mongodb_wt_log_log_write_operations",
    "mongodb_wt_transaction_checkpoint_most_recent_time_msecs",
    "mongodb_wt_transaction_transactions_committed",
    "mongodb_wt_transaction_transactions_rolled_back",
    "system_cpu_idle",
    "system_cpu_iowait",
    "system_cpu_system",
    "system_cpu_user",
    "system_disk_free_bytes",
    "system_disk_used_bytes",
    "system_load1",
    "system_load5",
    "system_load15",
    "system_mem_available",
    "system_mem_used"
  ]

def count : Nat := 139

theorem length_catalogue : catalogue.length = count := by rfl

def ranking : String := "mongodb_extra_info_user_time_us"

def counter : String := "mongodb_opcounters_query"

def first (n : Nat) : Except Refusal (List String) :=
  if n = 0 ∨ count < n then .error (.outOfBounds "metric" n count) else .ok (catalogue.take n)

end Metric

inductive MetricSelection where
  | all
  | exactly (n : Nat)
  deriving DecidableEq, Repr

namespace MetricSelection

/-- A number that covers the catalogue selects all of it. -/
def ofCount (n : Nat) : MetricSelection :=
  if n = Metric.count then .all else .exactly n

def count : MetricSelection → Nat
  | .all => Metric.count
  | .exactly n => n

def normalized (m : MetricSelection) : MetricSelection :=
  ofCount m.count

def isAll (m : MetricSelection) : Bool :=
  m.count = Metric.count

def resolve : MetricSelection → Except Refusal (List String)
  | .all => .ok Metric.catalogue
  | .exactly n => Metric.first n

end MetricSelection

end QueryWorkload
